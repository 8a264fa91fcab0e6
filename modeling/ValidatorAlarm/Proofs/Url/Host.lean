import ValidatorAlarm.Proofs.Url.Address
import ValidatorAlarm.Proofs.Url.Domain.Names

/-!
# Hosts and authorities that are read again

The host of a link of the web is a name in its ASCII form, or an address.  Its text holds none of the signs
that part an authority, so user, password, host and port are found again in the text of the authority.
-/
namespace ValidatorAlarm.Url

variable {text back : List Char}

namespace Host

variable {host : Host}

/-- Can the text of the host be read?  A name must not have a label that is too long for it. -/
def IsReadable : Host → Prop
  | name text => Domain.IsReadable text
  | v4 _ => True
  | v6 _ => True

instance (host : Host) : Decidable host.IsReadable :=
  match host with
  | name text => inferInstanceAs (Decidable (Domain.IsReadable text))
  | v4 _ => .isTrue trivial
  | v6 _ => .isTrue trivial

/-- The hosts of the web. -/
inductive OnWeb : Host → Prop
  | name {bytes : List UInt8} {text : List Char} (hname : Domain.ofBytes? bytes = some text)
    (hempty : text ≠ []) (hnumber : endsInNumber text = false) : OnWeb (.name text)
  | v4 {a : Nat} (ha : a < 256 ^ 4) : OnWeb (.v4 a)
  | v6 {groups : List Nat} (hlength : groups.length = 8) (hgroups : AreGroups groups) : OnWeb (.v6 groups)

theorem onWeb_of_web? (h : web? text = some host) : OnWeb host := by
  unfold web? at h
  split at h
  · unfold bracketed? at h
    rw [Option.ite_none_right_eq_some] at h
    obtain ⟨groups, hgroups, rfl⟩ := Option.map_eq_some_iff.mp h.2
    obtain ⟨hlength, hgroups⟩ := v6?_groups hgroups
    exact .v6 hlength hgroups
  · simp only [Option.bind_eq_bind, Option.bind_eq_some_iff, Option.ite_none_left_eq_some] at h
    obtain ⟨name, hname, hempty, h⟩ := h
    split at h
    · obtain ⟨a, ha, rfl⟩ := Option.map_eq_some_iff.mp h
      exact .v4 (v4?_lt ha)
    · rename_i hnumber
      cases h
      exact .name hname (mt List.isEmpty_iff.mpr hempty) (Bool.eq_false_iff.mpr hnumber)

theorem mem_v4Text {a : Nat} {c : Char} (h : c ∈ v4Text a) : c ∈ Domain.addressChars := by
  have hdigits : ∀ m < 10, Nat.digitChar m ∈ Domain.addressChars := by decide
  rcases Text.Form.exists_part '.' h with rfl | ⟨part, hpart, hc⟩
  · decide
  · rw [splitAt_v4Text] at hpart
    obtain ⟨n, -, rfl⟩ := List.mem_map.mp hpart
    obtain ⟨m, hm, rfl⟩ := digitChar_of_mem_toDigits (by decide) hc
    exact hdigits m hm

theorem web?_of_name (h : '[' ∉ text) : web? text = (Domain.ofBytes? (decode text)).bind fun name =>
    if name.isEmpty then none
    else if endsInNumber name then (v4? name).map .v4
    else some (.name name) := by
  rw [web?]
  · rfl
  · rintro rest rfl
    exact h List.mem_cons_self

/-- **The text of a host is read as the host**, unless it is a name with a label that is too long to be
read. -/
theorem web?_text (h : OnWeb host) : web? host.text = if host.IsReadable then some host else none := by
  cases h with
  | @name bytes text hname hempty hnumber =>
    obtain ⟨s, -, hallowed⟩ := Option.bind_eq_some_iff.mp hname
    have hbracket : '[' ∉ text := fun hmem =>
      absurd (Domain.allowed_of_ofName? hallowed _ hmem).2 (by decide)
    rw [Host.text, web?_of_name hbracket, Domain.ofBytes?_again hname]
    by_cases hreadable : Domain.IsReadable text
    · rw [if_pos hreadable, Option.bind_some, if_neg (mt List.isEmpty_iff.mp hempty), hnumber,
        if_pos (show (Host.name text).IsReadable from hreadable)]
      rfl
    · rw [if_neg hreadable, if_neg (show ¬ (Host.name text).IsReadable from hreadable)]
      rfl
  | @v4 a ha =>
    have hbracket : '[' ∉ v4Text a := fun hmem => absurd (mem_v4Text hmem) (by decide)
    have hempty : (v4Text a).isEmpty = false := by
      rw [List.isEmpty_eq_false_iff]
      intro hnil
      have hnumber := endsInNumber_v4Text a
      rw [hnil] at hnumber
      exact absurd hnumber (by decide)
    rw [Host.text, web?_of_name hbracket, Domain.ofBytes?_address fun c => mem_v4Text, Option.bind_some, hempty,
      endsInNumber_v4Text, v4?_v4Text ha]
    rfl
  | @v6 groups hlength hgroups =>
    have hread : web? (Host.v6 groups).text = bracketed? (v6Text groups ++ [']']) := rfl
    rw [hread, bracketed?, List.getLast?_concat, if_pos rfl, List.dropLast_concat, v6?_v6Text hlength hgroups]
    rfl

/-- The signs that end an authority. -/
def endSigns : List Char := ['/', '\\', '?', '#']

theorem notMem_text (h : OnWeb host) : ∀ c ∈ host.text, c ∉ '@' :: endSigns := by
  cases h with
  | @name bytes text hname hempty hnumber =>
    obtain ⟨s, -, hname⟩ := Option.bind_eq_some_iff.mp hname
    have hsigns : ∀ c ∈ '@' :: endSigns, Domain.isForbidden c = true := by decide
    intro c hc hsign
    exact Bool.false_ne_true ((Domain.allowed_of_ofName? hname c hc).2.symm.trans (hsigns c hsign))
  | v4 ha =>
    have hchars : ∀ c ∈ Domain.addressChars, c ∉ '@' :: endSigns := by decide
    exact fun c hc => hchars c (mem_v4Text hc)
  | v6 hlength hgroups =>
    refine List.forall_mem_append.mpr ⟨List.forall_mem_cons.mpr ⟨by decide, fun c hc => ?_⟩, by decide⟩
    have hchars : ∀ c ∈ addressSigns, c ∉ '@' :: endSigns := by decide
    exact hchars c (mem_v6Text hc)

theorem text_ne_nil (h : OnWeb host) : host.text ≠ [] := by
  cases h with
  | name hname hempty hnumber => exact hempty
  | @v4 a ha =>
    intro hnil
    have hnumber := endsInNumber_v4Text a
    rw [show v4Text a = [] from hnil] at hnumber
    exact absurd hnumber (by decide)
  | v6 hlength hgroups => exact List.cons_ne_nil _ _

end Host

namespace Authority

variable {scheme : List Char} {a : Authority}

/-! ### Ports -/

/-- A port with its colon, if there is one. -/
def portText : Option Nat → List Char
  | none => []
  | some port => ':' :: Nat.toDigits 10 port

theorem text_eq (a : Authority) : a.text = a.userText ++ a.host.text ++ portText a.port := by
  unfold Authority.text
  cases a.port <;> rfl

theorem splitPort_append {inside : Bool} (h : ∀ c ∈ text, (inside = true ∨ c ≠ ':') ∧ c ≠ '[' ∧ c ≠ ']') :
    splitPort inside (text ++ back) = (text ++ (splitPort inside back).1, (splitPort inside back).2) := by
  induction text with
  | nil => rfl
  | cons c text ih =>
    obtain ⟨⟨hcolon, hopen, hclose⟩, htext⟩ := List.forall_mem_cons.mp h
    have hstay : (decide (c = ':') && !inside) = false := by
      rcases hcolon with rfl | hcolon
      · exact Bool.and_false _
      · rw [decide_eq_false hcolon, Bool.false_and]
    rw [List.cons_append, splitPort]
    simp only [hstay, hopen, hclose, ih htext, Bool.false_eq_true, if_false, List.cons_append]

theorem splitPort_portText (port : Option Nat) : splitPort false (portText port) = ([], portText port) := by
  cases port <;> rfl

/-- Host and port are told apart. -/
theorem splitPort_host (h : Host.OnWeb a.host) :
    splitPort false (a.host.text ++ portText a.port) = (a.host.text, portText a.port) := by
  have hplain : (∀ c ∈ a.host.text, c ≠ ':' ∧ c ≠ '[' ∧ c ≠ ']') →
      splitPort false (a.host.text ++ portText a.port) = (a.host.text, portText a.port) := fun hchars => by
    rw [splitPort_append fun c hc => ⟨.inr (hchars c hc).1, (hchars c hc).2⟩, splitPort_portText, List.append_nil]
  generalize a.host = host at h hplain
  cases h with
  | @name bytes text hname hempty hnumber =>
    obtain ⟨s, -, hname⟩ := Option.bind_eq_some_iff.mp hname
    refine hplain fun c hc => ?_
    have hallowed := (Domain.allowed_of_ofName? hname c hc).2
    refine ⟨?_, ?_, ?_⟩ <;> (rintro rfl; exact absurd hallowed (by decide))
  | v4 ha =>
    have hchars : ∀ c ∈ Domain.addressChars, c ≠ ':' ∧ c ≠ '[' ∧ c ≠ ']' := by decide
    exact hplain fun c hc => hchars c (Host.mem_v4Text hc)
  | @v6 groups hlength hgroups =>
    have hchars : ∀ c ∈ addressSigns, (true = true ∨ c ≠ ':') ∧ c ≠ '[' ∧ c ≠ ']' := by decide
    have hinside : splitPort true (v6Text groups ++ ']' :: portText a.port) =
        (v6Text groups ++ [']'], portText a.port) := by
      rw [splitPort_append fun c hc => hchars c (mem_v6Text hc), splitPort]
      simp [splitPort_portText]
    have htext : (Host.v6 groups).text ++ portText a.port = '[' :: (v6Text groups ++ ']' :: portText a.port) := by
      simp [Host.text]
    rw [htext, splitPort]
    simp [hinside, Host.text]

theorem foldl_digits (n : Nat) :
    (Nat.toDigits 10 n).foldl (fun n c => n * 10 + (c.toNat - 48)) 0 = n := by
  have hread : Nat.ofDigitChars 10 (Nat.toDigits 10 n) 0 = n := Nat.ofDigitChars_toDigits (by decide) (by decide)
  rw [Nat.ofDigitChars] at hread
  simp only [Nat.mul_comm] at hread ⊢
  exact hread

/-- A port that a scheme does not use anyway is found again. -/
theorem port?_portText {usual port : Option Nat} (h : ∀ p ∈ port, p ≤ maxPort ∧ some p ≠ usual) :
    port? usual ((portText port).drop 1) = some (port, []) := by
  cases port with
  | none => rfl
  | some p =>
    obtain ⟨hmost, husual⟩ := h p rfl
    have hdigits : ∀ c ∈ Nat.toDigits 10 p, c.isDigit = true := fun c hc =>
      Nat.isDigit_of_mem_toDigits (by decide) (by decide) hc
    obtain ⟨htake, hdrop⟩ := Text.Form.span_all hdigits
    have hempty : (Nat.toDigits 10 p).isEmpty = false := List.isEmpty_eq_false_iff.mpr Nat.toDigits_ne_nil
    rw [portText, List.drop_one, List.tail_cons, port?]
    simp only [htake, hdrop, foldl_digits, hempty, Bool.false_or, decide_eq_true_eq]
    rw [if_neg (Nat.not_lt.mpr hmost), if_neg husual]

theorem port?_le {usual port : Option Nat} {text rest : List Char} (h : port? usual text = some (port, rest)) :
    ∀ p ∈ port, p ≤ maxPort ∧ some p ≠ usual := by
  intro p hp
  unfold port? at h
  simp only [Option.ite_none_left_eq_some, Option.some.injEq, Prod.mk.injEq] at h
  obtain ⟨hmost, hport, -⟩ := h
  rw [hp] at hport
  split at hport
  · cases hport
  · rename_i husual
    cases hport
    simp only [Bool.or_eq_true, decide_eq_true_eq, not_or] at husual
    exact ⟨Nat.le_of_not_lt hmost, husual.2⟩

/-! ### Users -/

theorem splitUser?_none (h : '@' ∉ text) : splitUser? text = none := by
  rw [splitUser?, (Text.Form.span_all (Text.Form.bne_of_notMem (mt List.mem_reverse.mp h))).2]

theorem splitUser?_append (h : '@' ∉ back) : splitUser? (text ++ '@' :: back) = some (text, back) := by
  obtain ⟨htake, hdrop⟩ := Text.Form.span_stop text.reverse
    (Text.Form.bne_of_notMem (mt List.mem_reverse.mp h)) (bne_self_eq_false '@')
  rw [splitUser?, List.reverse_append, List.reverse_cons, List.append_assoc, List.singleton_append, htake, hdrop]
  simp

/-! ### Authorities -/

/-- An authority of the web as it is read. -/
structure OnWeb (scheme : List Char) (a : Authority) : Prop where
  user : Fixed userReserved a.user
  password : Fixed userReserved a.password
  host : Host.OnWeb a.host
  port : ∀ p ∈ a.port, p ≤ maxPort ∧ some p ≠ webSchemes.lookup scheme

theorem onWeb_of_parse? {beside : List Char} {alone : Bool} (hweb : kindOf scheme = .web)
    (h : parse? scheme text alone = some (a, beside)) : a.OnWeb scheme := by
  unfold parse? at h
  simp only [Option.bind_eq_bind, Option.bind_none, Option.ite_none_left_eq_some,
    Option.ite_none_right_eq_some, Option.bind_eq_some_iff, Option.some.injEq, Prod.mk.injEq] at h
  obtain ⟨-, -, host, hhost, ⟨port, rest⟩, hport, -, rfl, -⟩ := h
  rw [hweb] at hhost
  exact ⟨fixed_encode (List.Subset.refl _) (by decide) _, fixed_encode (List.Subset.refl _) (by decide) _,
    Host.onWeb_of_web? hhost, port?_le hport⟩

/-- User and password without the sign behind them. -/
def userFront (a : Authority) : List Char := a.user ++ if a.password.isEmpty then [] else ':' :: a.password

theorem span_userFront (h : a.OnWeb scheme) :
    a.userFront.takeWhile (· != ':') = a.user ∧ (a.userFront.dropWhile (· != ':')).drop 1 = a.password := by
  have hcolon : ∀ d ∈ a.user, (d != ':') = true :=
    Text.Form.bne_of_notMem (notMem_of_fixed h.user (by decide))
  unfold userFront
  split
  · rename_i hempty
    obtain ⟨htake, hdrop⟩ := Text.Form.span_all hcolon
    rw [List.append_nil, htake, hdrop, List.isEmpty_iff.mp hempty]
    exact ⟨rfl, rfl⟩
  · obtain ⟨htake, hdrop⟩ := Text.Form.span_stop a.password hcolon (bne_self_eq_false ':')
    rw [htake, hdrop]
    exact ⟨rfl, rfl⟩

theorem notMem_hostPort (h : a.OnWeb scheme) : ∀ c ∈ a.host.text ++ portText a.port, c ∉ '@' :: Host.endSigns := by
  have hdigits : ∀ m < 16, Nat.digitChar m ∉ '@' :: Host.endSigns := by decide
  refine List.forall_mem_append.mpr ⟨Host.notMem_text h.host, fun c hc => ?_⟩
  cases hport : a.port with
  | none =>
    rw [hport] at hc
    cases hc
  | some p =>
    rw [hport] at hc
    rcases List.mem_cons.mp hc with rfl | hc
    · decide
    · obtain ⟨m, hm, rfl⟩ := digitChar_of_mem_toDigits (by decide) hc
      exact hdigits m (by omega)

/-- The text of an authority holds none of the signs that end it. -/
theorem notMem_text (h : a.OnWeb scheme) : ∀ c ∈ a.text, c ∉ Host.endSigns := by
  have hreserved : ∀ c ∈ Host.endSigns, c ∈ userReserved := by decide
  have hfixed : ∀ {part : List Char}, Fixed userReserved part → ∀ c ∈ part, c ∉ Host.endSigns :=
    fun hpart c hc hsign => notMem_of_fixed hpart (hreserved c hsign) hc
  have huser : ∀ c ∈ a.userText, c ∉ Host.endSigns := by
    unfold userText
    split
    · exact List.forall_mem_nil _
    · refine List.forall_mem_append.mpr ⟨List.forall_mem_append.mpr ⟨hfixed h.user, ?_⟩, by decide⟩
      split
      · exact List.forall_mem_nil _
      · exact List.forall_mem_cons.mpr ⟨by decide, hfixed h.password⟩
  rw [text_eq, List.append_assoc]
  exact List.forall_mem_append.mpr ⟨huser, fun c hc => mt (List.mem_cons_of_mem _) (notMem_hostPort h c hc)⟩

theorem splitUser?_text (h : a.OnWeb scheme) :
    (splitUser? a.text).getD ([], a.text) = (a.userFront, a.host.text ++ portText a.port) := by
  have hsign : '@' ∉ a.host.text ++ portText a.port := fun hmem => notMem_hostPort h _ hmem List.mem_cons_self
  rw [text_eq, List.append_assoc, userText, userFront]
  by_cases hempty : (a.user.isEmpty && a.password.isEmpty) = true
  · rw [if_pos hempty, List.nil_append, splitUser?_none hsign]
    rw [Bool.and_eq_true, List.isEmpty_iff, List.isEmpty_iff] at hempty
    rw [hempty.1, hempty.2]
    rfl
  · rw [if_neg hempty, List.append_assoc _ ['@'], List.singleton_append, splitUser?_append hsign]
    rfl

/-- **The text of an authority is read as the authority** if its host can be read. -/
theorem parse?_text (hweb : kindOf scheme = .web) (h : a.OnWeb scheme) :
    parse? scheme a.text false = if a.host.IsReadable then some (a, []) else none := by
  obtain ⟨huser, hpassword⟩ := span_userFront h
  have hhost : a.host.text.isEmpty = false := List.isEmpty_eq_false_iff.mpr (Host.text_ne_nil h.host)
  have hhostPort : (a.host.text ++ portText a.port).isEmpty = false := List.isEmpty_eq_false_iff.mpr fun hnil =>
    Host.text_ne_nil h.host (List.append_eq_nil_iff.mp hnil).1
  unfold parse?
  simp only [splitUser?_text h, splitPort_host h.host, huser, hpassword, hhost, hhostPort, hweb, encode_of_fixed h.user,
    encode_of_fixed h.password, port?_portText h.port, Bool.and_false, Bool.false_and, Bool.false_eq_true, if_false,
    Option.bind_eq_bind, Option.bind_some, Host.parse?, Host.web?_text h.host]
  by_cases hreadable : a.host.IsReadable
  · rw [if_pos hreadable, if_pos hreadable]
    rfl
  · rw [if_neg hreadable, if_neg hreadable]
    rfl

end Authority

end ValidatorAlarm.Url
