import Mathlib.Data.List.TakeWhile
import Mathlib.Tactic.SplitIfs
import ValidatorAlarm.Explorer
import ValidatorAlarm.Proofs.Text.Parts

/-!
# The characters of a link

Whatever an operator types as the address of an explorer: the link that is made of it consists of
visible ASCII characters, and the angle brackets are not among them.  Every part of a link is either
percent-encoded, or a number, or a name that has been checked, and what is done to paths only takes
characters away or puts slashes and encoded segments behind them.
-/
namespace ValidatorAlarm.Url

/-- A character that may stand in a link. -/
def Visible (c : Char) : Prop := 32 < c.toNat ∧ c.toNat < 127 ∧ c ≠ '<' ∧ c ≠ '>'

instance (c : Char) : Decidable (Visible c) := inferInstanceAs (Decidable (_ ∧ _ ∧ _ ∧ _))

/-- A text that may stand in a link. -/
def AllVisible (text : List Char) : Prop := ∀ c ∈ text, Visible c

instance (text : List Char) : Decidable (AllVisible text) :=
  inferInstanceAs (Decidable (∀ c ∈ text, Visible c))

variable {text rest : List Char} {c : Char}

@[simp] theorem allVisible_nil : AllVisible [] := by
  intro c hc
  cases hc

@[simp] theorem allVisible_cons : AllVisible (c :: rest) ↔ Visible c ∧ AllVisible rest :=
  List.forall_mem_cons

@[simp] theorem allVisible_append : AllVisible (text ++ rest) ↔ AllVisible text ∧ AllVisible rest :=
  List.forall_mem_append

theorem AllVisible.of_subset (h : AllVisible text) (hsubset : rest ⊆ text) : AllVisible rest :=
  fun c hc => h c (hsubset hc)

theorem AllVisible.intercalate {parts : List (List Char)} (hparts : ∀ part ∈ parts, AllVisible part)
    (hc : Visible c) : AllVisible (List.intercalate [c] parts) :=
  Text.Form.forall_mem_intercalate hparts hc

/-! ### Letters, encoded texts and numbers -/

theorem ascii_of_isAlphanum (h : c.isAlphanum = true) : c.toNat < 128 := by
  unfold Char.isAlphanum Char.isAlpha Char.isUpper Char.isLower Char.isDigit at h
  simp only [Bool.or_eq_true, Bool.and_eq_true, decide_eq_true_eq, ge_iff_le, UInt32.le_iff_toNat_le] at h
  have hbound : c.val.toNat ≤ 122 := by
    rcases h with (h | h) | h
    · exact Nat.le_trans h.2 (by decide)
    · exact h.2
    · exact Nat.le_trans h.2 (by decide)
  exact Nat.lt_of_le_of_lt hbound (by decide)

theorem isAlphanum_visible (h : c.isAlphanum = true) : Visible c ∧ Visible c.toLower := by
  have hall : ∀ n < 128, (Char.ofNat n).isAlphanum = true →
      Visible (Char.ofNat n) ∧ Visible (Char.ofNat n).toLower := by
    decide
  have hc := hall c.toNat (ascii_of_isAlphanum h)
  rw [Char.ofNat_toNat] at hc
  exact hc h

theorem capitalDigit_visible {n : Nat} (h : n < 16) : Visible (Text.Form.capitalDigit n) := by
  have hall : ∀ n < 16, Visible (Text.Form.capitalDigit n) := by decide
  exact hall n h

theorem percent_visible (b : UInt8) : AllVisible (Text.Form.percent b) := by
  have hb := b.toNat_lt
  simp only [Text.Form.percent, allVisible_cons]
  exact ⟨by decide, capitalDigit_visible (by omega), capitalDigit_visible (by omega), allVisible_nil⟩

/-- Encoding leaves no character that may not stand in a link, if it spares none of them. -/
theorem encode_visible {reserved : List Char}
    (h : ∀ c ∈ text, c ∈ [' ', '<', '>'] → c ∈ reserved) : AllVisible (encode reserved text) := by
  intro c hc
  obtain ⟨d, hd, hc⟩ := List.mem_flatMap.mp hc
  unfold encodeChar at hc
  split at hc
  · obtain ⟨b, -, hc⟩ := List.mem_flatMap.mp hc
    exact percent_visible b c hc
  · rename_i hfree
    rw [List.mem_singleton.mp hc]
    simp only [isReserved, Bool.or_eq_true, decide_eq_true_eq, List.contains_iff_mem, not_or] at hfree
    obtain ⟨⟨hlow, hhigh⟩, hnot⟩ := hfree
    have hspecial : d ∉ [' ', '<', '>'] := fun hmem => hnot (h d hd hmem)
    simp only [List.mem_cons, List.not_mem_nil, or_false, not_or] at hspecial
    obtain ⟨hspace, hopen, hclose⟩ := hspecial
    have hne : d.toNat ≠ 32 := by
      intro h
      exact hspace (Char.toNat_inj.mp h)
    exact ⟨by omega, by omega, hopen, hclose⟩

theorem encode_reserved_visible {reserved : List Char} (h : ∀ c ∈ [' ', '<', '>'], c ∈ reserved)
    (text : List Char) : AllVisible (encode reserved text) :=
  encode_visible fun c _ hc => h c hc

theorem digitChar_of_mem_toDigits {base n : Nat} (hbase : 1 < base) (h : c ∈ Nat.toDigits base n) :
    ∃ m < base, c = Nat.digitChar m := by
  induction n using Nat.strongRecOn with
  | ind n ih =>
    rw [Nat.toDigits_eq_if hbase] at h
    split at h
    · rename_i hsmall
      exact ⟨n, hsmall, List.mem_singleton.mp h⟩
    · rcases List.mem_append.mp h with hrest | hlast
      · exact ih (n / base) (Nat.div_lt_self (by omega) hbase) hrest
      · exact ⟨n % base, Nat.mod_lt _ (by omega), List.mem_singleton.mp hlast⟩

theorem toDigits_visible {base : Nat} (hbase : 1 < base) (hmost : base ≤ 16) (n : Nat) :
    AllVisible (Nat.toDigits base n) := by
  have hall : ∀ m < 16, Visible (Nat.digitChar m) := by decide
  intro c hc
  obtain ⟨m, hm, rfl⟩ := digitChar_of_mem_toDigits hbase hc
  exact hall m (by omega)

/-! ### Paths -/

namespace Path

theorem trimFront_visible (h : AllVisible text) : AllVisible (trimFront text) := by
  rw [trimFront, allVisible_cons]
  exact ⟨by decide, h.of_subset (List.dropWhile_sublist _).subset⟩

theorem up_subset (path : Path) : up path ⊆ path := by
  simp only [up]
  split
  · intro c hc
    have hbare : c ∈ path.dropLast := by
      have h := (List.dropWhile_sublist _).subset (List.mem_reverse.mp hc)
      exact List.mem_reverse.mp h
    exact (List.dropLast_sublist path).subset hbare
  · exact fun c hc => hc

theorem add_visible {segment : List Char} (hpath : AllVisible text) (hsegment : AllVisible segment)
    (slash : Bool) : AllVisible (add text segment slash) := by
  unfold add
  split_ifs
  · exact hpath.of_subset (up_subset text)
  · exact hpath
  · simp only [allVisible_append, allVisible_cons]
    exact ⟨⟨hpath, hsegment⟩, by decide, allVisible_nil⟩
  · simp only [allVisible_append]
    exact ⟨⟨hpath, hsegment⟩, allVisible_nil⟩

theorem addAll_visible {segments : List (List Char)} (hpath : AllVisible text)
    (hsegments : ∀ segment ∈ segments, AllVisible segment) : AllVisible (addAll text segments) := by
  induction segments generalizing text with
  | nil => exact hpath
  | cons segment segments ih =>
    have hsegment := hsegments segment List.mem_cons_self
    cases segments with
    | nil => exact add_visible hpath hsegment false
    | cons next segments =>
      exact ih (add_visible hpath hsegment true) fun s hs => hsegments s (List.mem_cons_of_mem _ hs)

theorem ofSegments_visible {segments : List (List Char)}
    (hsegments : ∀ segment ∈ segments, AllVisible segment) : AllVisible (ofSegments segments) :=
  addAll_visible (by decide) hsegments

theorem push_visible {segment : List Char} (hpath : AllVisible text) (hsegment : AllVisible segment) :
    AllVisible (push text segment) := by
  unfold push
  apply add_visible _ hsegment
  split
  · exact hpath
  · simp only [allVisible_append, allVisible_cons]
    exact ⟨hpath, by decide, allVisible_nil⟩

theorem closeEnd_visible (h : AllVisible text) : AllVisible (closeEnd text) := by
  unfold closeEnd
  split
  · exact h.of_subset (List.dropLast_sublist text).subset
  · exact h

end Path

theorem encodeAll_visible (segments : List (List Char)) :
    ∀ segment ∈ encodeAll segments, AllVisible segment := by
  intro segment hsegment
  obtain ⟨typed, -, rfl⟩ := List.mem_map.mp hsegment
  exact encode_reserved_visible (by decide) typed

/-! ### Names of hosts -/

namespace Punycode

theorem digit_visible {n : Nat} (h : n < 36) : Visible (digit n) := by
  have hall : ∀ n < 36, Visible (digit n) := by decide
  exact hall n h

theorem threshold_le (bias k : Nat) : threshold bias k ≤ 26 := by
  unfold threshold
  omega

theorem writeNumber_visible (bias k n : Nat) : AllVisible (writeNumber bias k n) := by
  induction k, n using writeNumber.induct bias with
  | case1 k n t hlast =>
    have ht : t ≤ 26 := threshold_le bias k
    rw [writeNumber, if_pos hlast, allVisible_cons]
    exact ⟨digit_visible (by omega), allVisible_nil⟩
  | case2 k n t hmore ih =>
    have ht := threshold_le bias k
    have hrest : (n - threshold bias k) % (36 - threshold bias k) < 36 - threshold bias k :=
      Nat.mod_lt _ (by omega)
    rw [writeNumber, if_neg hmore, allVisible_cons]
    exact ⟨digit_visible (by omega), ih⟩

theorem writeCode_visible (code : Nat) (s : State) (label : List Nat) :
    AllVisible (writeCode code s label).2 := by
  induction label generalizing s with
  | nil => exact allVisible_nil
  | cons c label ih =>
    unfold writeCode
    split_ifs
    · exact ih _
    · rw [allVisible_append]
      exact ⟨writeNumber_visible _ _ _, ih _⟩
    · exact ih _

theorem writeCodes_visible (label : List Nat) (s : State) (codes : List Nat) :
    AllVisible (writeCodes label s codes) := by
  induction codes generalizing s with
  | nil => exact allVisible_nil
  | cons code codes ih =>
    rw [writeCodes, allVisible_append]
    exact ⟨writeCode_visible _ _ _, ih _⟩

theorem encode_ascii (label : List Char) : ∀ c ∈ encode label, c.toNat < 128 := by
  intro c hc
  rcases List.mem_append.mp hc with hbasic | hcodes
  · split at hbasic
    · cases hbasic
    · rcases List.mem_append.mp hbasic with hc | hc
      · exact of_decide_eq_true (List.mem_filter.mp hc).2
      · rw [List.mem_singleton.mp hc]
        decide
  · have hvisible := writeCodes_visible _ _ _ c hcodes
    exact Nat.lt_trans hvisible.2.1 (by decide)

end Punycode

namespace Domain

theorem Label.ofWritten?_written {written : List Char} {l : Label}
    (h : Label.ofWritten? written = some l) : l.written = written := by
  unfold Label.ofWritten? at h
  simp only [Option.bind_eq_bind, Option.bind_none, Option.ite_none_left_eq_some,
    Option.ite_none_right_eq_some, Option.bind_eq_some_iff, Option.some.injEq] at h
  obtain ⟨-, shown, -, -, rfl⟩ := h
  rfl

/-- Every label is written in ASCII. -/
theorem Label.read?_ascii {label : List Char} {l : Label} (h : Label.read? label = some l) :
    ∀ c ∈ l.written, c.toNat < 128 := by
  have hall : label.all isAscii = true → ∀ c ∈ label, c.toNat < 128 := by
    intro h c hc
    exact of_decide_eq_true (List.all_eq_true.mp h c hc)
  unfold Label.read? at h
  split_ifs at h with hmark hascii hascii hshown
  · rw [Label.ofWritten?_written h]
    exact hall hascii
  · cases h
    exact hall hascii
  · cases h
    intro c hc
    rcases List.mem_append.mp hc with hc | hc
    · have hmark : ∀ c ∈ asciiMark, c.toNat < 128 := by decide
      exact hmark c hc
    · exact Punycode.encode_ascii label c hc

theorem visible_of_allowed (hascii : c.toNat < 128) (h : isForbidden c = false) : Visible c := by
  simp only [isForbidden, Bool.or_eq_false_iff, decide_eq_false_iff_not, List.contains_eq_mem] at h
  obtain ⟨⟨hlow, hdelete⟩, hlisted⟩ := h
  simp only [List.mem_cons, not_or] at hlisted
  exact ⟨by omega, by omega, hlisted.2.2.2.2.1, hlisted.2.2.2.2.2.1⟩

theorem allowed_of_ofName? {name out : List Char} (h : ofName? isForbidden name = some out) :
    ∀ c ∈ out, c.toNat < 128 ∧ isForbidden c = false := by
  unfold ofName? at h
  simp only [Option.bind_eq_bind, Option.bind_eq_some_iff, Option.ite_none_right_eq_some,
    Bool.and_eq_true, Bool.not_eq_true', Option.some.injEq] at h
  obtain ⟨folded, -, labels, hlabels, ⟨-, hallowed⟩, rfl⟩ := h
  refine Text.Form.forall_mem_intercalate (P := fun c => c.toNat < 128 ∧ isForbidden c = false) ?_ (by decide)
  intro written hwritten c hc
  obtain ⟨label, hlabel, rfl⟩ := List.mem_map.mp hwritten
  obtain ⟨typed, -, hread⟩ := mem_of_mapM hlabels hlabel
  have hnone := List.any_eq_false.mp hallowed label hlabel
  have hfree := List.any_eq_false.mp (Bool.not_eq_true _ |>.mp hnone) c hc
  exact ⟨Label.read?_ascii hread c hc, Bool.eq_false_iff.mpr hfree⟩

theorem ofName?_visible {name out : List Char} (h : ofName? isForbidden name = some out) :
    AllVisible out := fun c hc =>
  have hallowed := allowed_of_ofName? h c hc
  visible_of_allowed hallowed.1 hallowed.2

theorem ofBytes?_visible {bytes : List UInt8} {name : List Char} (h : ofBytes? bytes = some name) :
    AllVisible name := by
  obtain ⟨s, -, h⟩ := Option.bind_eq_some_iff.mp h
  exact ofName?_visible h

end Domain

/-! ### Hosts -/

theorem v4Text_visible (address : Nat) : AllVisible (v4Text address) := by
  unfold v4Text
  apply AllVisible.intercalate _ (by decide)
  intro part hpart
  obtain ⟨i, -, rfl⟩ := List.mem_map.mp hpart
  exact toDigits_visible (by decide) (by decide) _

theorem v6Joined_visible (groups : List Nat) : AllVisible (v6Joined groups) := by
  unfold v6Joined
  apply AllVisible.intercalate _ (by decide)
  intro part hpart
  obtain ⟨group, -, rfl⟩ := List.mem_map.mp hpart
  exact toDigits_visible (by decide) (by decide) _

theorem v6Text_visible (groups : List Nat) : AllVisible (v6Text groups) := by
  simp only [v6Text]
  split
  · exact v6Joined_visible groups
  · simp only [allVisible_append, allVisible_cons]
    exact ⟨⟨v6Joined_visible _, by decide, by decide, allVisible_nil⟩, v6Joined_visible _⟩

namespace Host

theorem bracketed?_visible {host : Host} (h : bracketed? text = some host) : AllVisible host.text := by
  unfold bracketed? at h
  split at h
  · obtain ⟨groups, -, rfl⟩ := Option.map_eq_some_iff.mp h
    simp only [Host.text, allVisible_append, allVisible_cons]
    exact ⟨⟨by decide, v6Text_visible groups⟩, by decide, allVisible_nil⟩
  · cases h

theorem web?_visible {host : Host} (h : web? text = some host) : AllVisible host.text := by
  unfold web? at h
  split at h
  · exact bracketed?_visible h
  · simp only [Option.bind_eq_bind, Option.bind_eq_some_iff, Option.ite_none_left_eq_some] at h
    obtain ⟨name, hname, -, h⟩ := h
    split at h
    · obtain ⟨address, -, rfl⟩ := Option.map_eq_some_iff.mp h
      exact v4Text_visible address
    · cases h
      exact Domain.ofBytes?_visible hname

theorem plain?_visible {host : Host} (h : plain? text = some host) : AllVisible host.text := by
  unfold plain? at h
  split at h
  · exact bracketed?_visible h
  · rw [Option.ite_none_left_eq_some] at h
    obtain ⟨hfree, h⟩ := h
    cases h
    have hrefused : ∀ c ∈ [' ', '<', '>'], isRefused c = true := by decide
    refine encode_visible fun c hc hspecial => ?_
    exact absurd (List.any_eq_true.mpr ⟨c, hc, hrefused c hspecial⟩) hfree

theorem parse?_visible {kind : SchemeKind} {host : Host} (h : parse? kind text = some host) :
    AllVisible host.text := by
  cases kind with
  | other => exact plain?_visible h
  | web | file => exact web?_visible h

end Host

namespace Authority

theorem text_visible {a : Authority} (huser : AllVisible a.user) (hpassword : AllVisible a.password)
    (hhost : AllVisible a.host.text) : AllVisible a.text := by
  have husertext : AllVisible a.userText := by
    unfold userText
    split_ifs
    · exact allVisible_nil
    · simp only [allVisible_append, allVisible_cons]
      exact ⟨⟨huser, allVisible_nil⟩, by decide, allVisible_nil⟩
    · simp only [allVisible_append, allVisible_cons]
      exact ⟨⟨huser, by decide, hpassword⟩, by decide, allVisible_nil⟩
  unfold Authority.text
  rw [allVisible_append, allVisible_append]
  refine ⟨⟨husertext, hhost⟩, ?_⟩
  split
  · exact allVisible_nil
  · rw [allVisible_cons]
    exact ⟨by decide, toDigits_visible (by decide) (by decide) _⟩

theorem ofHost_visible {host : Host} (h : AllVisible host.text) : AllVisible (ofHost host).text :=
  text_visible allVisible_nil allVisible_nil h

theorem parse?_visible {scheme beside : List Char} {alone : Bool} {a : Authority}
    (h : parse? scheme text alone = some (a, beside)) : AllVisible a.text := by
  unfold parse? at h
  simp only [Option.bind_eq_bind, Option.bind_none, Option.ite_none_left_eq_some,
    Option.ite_none_right_eq_some, Option.bind_eq_some_iff, Option.some.injEq, Prod.mk.injEq] at h
  obtain ⟨-, -, host, hhost, port, -, -, rfl, -⟩ := h
  exact text_visible (encode_reserved_visible (by decide) _) (encode_reserved_visible (by decide) _)
    (Host.parse?_visible hhost)

end Authority

/-! ### Links -/

/-- Authority and path of a link are visible. -/
def Body.Visible (b : Body) : Prop := (∀ a ∈ b.1, AllVisible a.text) ∧ AllVisible b.2

theorem Body.visible_of_some {a : Authority} {path : Path} (ha : AllVisible a.text)
    (hpath : AllVisible path) : Body.Visible (some a, path) := by
  refine ⟨?_, hpath⟩
  intro a' ha'
  cases ha'
  exact ha

theorem webBody?_visible {scheme : List Char} {b : Body} (h : webBody? scheme text = some b) :
    b.Visible := by
  unfold webBody? at h
  simp only [Option.bind_eq_bind, Option.bind_eq_some_iff, Option.some.injEq] at h
  obtain ⟨⟨a, beside⟩, hauthority, rfl⟩ := h
  exact Body.visible_of_some (Authority.parse?_visible hauthority)
    (Path.ofSegments_visible (encodeAll_visible _))

theorem otherPath_visible (text : List Char) : AllVisible (otherPath text) := by
  unfold otherPath
  split
  · exact allVisible_nil
  · exact Path.ofSegments_visible (encodeAll_visible _)
  · exact Path.ofSegments_visible (encodeAll_visible _)

theorem otherBody?_visible {isLast : Bool} {scheme : List Char} {b : Body}
    (h : otherBody? isLast scheme text = some b) : b.Visible := by
  unfold otherBody? at h
  split at h
  · simp only [Option.bind_eq_bind, Option.bind_eq_some_iff, Option.some.injEq] at h
    obtain ⟨⟨a, beside⟩, hauthority, rfl⟩ := h
    exact Body.visible_of_some (Authority.parse?_visible hauthority) (otherPath_visible _)
  · rename_i rest _ _
    cases h
    have hpath := otherPath_visible ('/' :: rest)
    refine ⟨?_, hpath⟩
    intro a ha
    cases ha
  · cases h

theorem splitDrive?_visible {segment drive tail : List Char}
    (h : splitDrive? segment = some (drive, tail)) : AllVisible drive := by
  unfold splitDrive? at h
  split at h
  · cases h
  · rename_i letter rest hsegment
    split at h
    · rw [Option.ite_none_right_eq_some] at h
      obtain ⟨hdrive, h⟩ := h
      cases h
      simp only [Bool.and_eq_true] at hdrive
      have hletter : letter.isAlphanum = true := by
        rw [Char.isAlphanum, hdrive.1.1, Bool.true_or]
      simp only [allVisible_cons]
      exact ⟨(isAlphanum_visible hletter).1, by decide, allVisible_nil⟩
    · cases h

theorem filePath_visible (text : List Char) : AllVisible (filePath text) := by
  unfold filePath
  split
  · decide
  · rename_i first rest hslashes
    have hothers := encodeAll_visible (rest.map shown)
    simp only
    split
    · rename_i drive tail hdrive
      have hstart : AllVisible ('/' :: drive ++ '/' :: encode pathReserved tail) := by
        simp only [allVisible_append, allVisible_cons]
        exact ⟨⟨by decide, splitDrive?_visible hdrive⟩, by decide, encode_reserved_visible (by decide) _⟩
      split
      · exact hstart
      · refine Path.trimFront_visible (Path.addAll_visible ?_ hothers)
        rw [allVisible_append]
        exact ⟨hstart, by decide⟩
    · refine Path.trimFront_visible (Path.ofSegments_visible ?_)
      simp only [List.forall_mem_cons]
      exact ⟨encode_reserved_visible (by decide) _, hothers⟩

theorem fileHost?_visible {host : Host} (h : fileHost? text = some host) : AllVisible host.text := by
  unfold fileHost? at h
  split at h
  · cases h
    exact allVisible_nil
  · obtain ⟨read, hread, rfl⟩ := Option.map_eq_some_iff.mp h
    split
    · exact allVisible_nil
    · exact Host.parse?_visible hread

theorem fileBody?_visible {b : Body} (h : fileBody? text = some b) : b.Visible := by
  have hnowhere : AllVisible (Authority.ofHost (.name [])).text := Authority.ofHost_visible allVisible_nil
  unfold fileBody? at h
  simp only [Option.bind_eq_bind] at h
  split_ifs at h
  · cases h
    exact Body.visible_of_some hnowhere (filePath_visible _)
  · cases h
    exact Body.visible_of_some hnowhere (filePath_visible _)
  · cases h
    exact Body.visible_of_some hnowhere (filePath_visible _)
  · obtain ⟨host, hhost, h⟩ := Option.bind_eq_some_iff.mp h
    cases h
    exact Body.visible_of_some (Authority.ofHost_visible (fileHost?_visible hhost)) (filePath_visible _)

theorem body?_visible {isLast : Bool} {scheme : List Char} {b : Body}
    (h : body? isLast scheme text = some b) : b.Visible := by
  unfold body? at h
  split at h
  · exact webBody?_visible h
  · exact fileBody?_visible h
  · exact otherBody?_visible h

theorem splitScheme?_visible {scheme : List Char} (h : splitScheme? text = some (scheme, rest)) :
    AllVisible scheme := by
  unfold splitScheme? at h
  simp only at h
  split at h
  · rw [Option.ite_none_right_eq_some] at h
    obtain ⟨-, h⟩ := h
    cases h
    intro c hc
    obtain ⟨d, hd, rfl⟩ := List.mem_map.mp hc
    obtain ⟨hmem, hshown⟩ := List.mem_filter.mp hd
    have hpart := List.mem_takeWhile_imp hmem
    rw [Bool.or_eq_true] at hpart
    rcases hpart with hscheme | hignored
    · simp only [isSchemeChar, Bool.or_eq_true, decide_eq_true_eq] at hscheme
      rcases hscheme with ((halphanum | rfl) | rfl) | rfl
      · exact (isAlphanum_visible halphanum).2
      · decide
      · decide
      · decide
    · simp [hignored] at hshown
  · cases h

/-- Every part of the link is visible. -/
structure PartsVisible (u : Url) : Prop where
  scheme : AllVisible u.scheme
  authority : ∀ a ∈ u.authority, AllVisible a.text
  path : AllVisible u.path
  query : ∀ query ∈ u.query, AllVisible query
  fragment : ∀ fragment ∈ u.fragment, AllVisible fragment

theorem parse?_visible {s : String} {u : Url} (h : parse? s = some u) : u.PartsVisible := by
  unfold parse? at h
  simp only [Option.bind_eq_bind, Option.bind_eq_some_iff, Option.some.injEq] at h
  obtain ⟨⟨scheme, rest⟩, hscheme, ⟨authority, path⟩, hbody, rfl⟩ := h
  obtain ⟨hauthority, hpath⟩ := body?_visible hbody
  refine ⟨splitScheme?_visible hscheme, hauthority, hpath, ?_, ?_⟩
  · intro query hquery
    obtain ⟨typed, -, rfl⟩ := Option.map_eq_some_iff.mp hquery
    refine encode_reserved_visible ?_ _
    unfold queryReservedIn
    split <;> decide
  · intro fragment hfragment
    obtain ⟨typed, -, rfl⟩ := Option.map_eq_some_iff.mp hfragment
    exact encode_reserved_visible (by decide) _

theorem PartsVisible.push {u : Url} (h : u.PartsVisible) (segment : List Char) :
    (u.push segment).PartsVisible := by
  unfold Url.push
  split
  · exact h
  · refine ⟨h.scheme, h.authority, ?_, h.query, h.fragment⟩
    have hsegment : AllVisible (encode (segmentReservedIn u.scheme) (shown segment)) := by
      refine encode_reserved_visible ?_ _
      unfold segmentReservedIn
      split <;> decide
    have hpath := Path.push_visible h.path hsegment
    simp only
    split
    · exact Path.trimFront_visible hpath
    · exact hpath

theorem PartsVisible.descend {u : Url} (h : u.PartsVisible) (segments : List (List Char)) :
    (u.descend segments).PartsVisible := by
  have hpush : ∀ u : Url, u.PartsVisible → (segments.foldl Url.push u).PartsVisible := by
    induction segments with
    | nil => exact fun u h => h
    | cons segment segments ih => exact fun u h => ih _ (h.push segment)
  exact hpush _ ⟨h.scheme, h.authority, Path.closeEnd_visible h.path, h.query, h.fragment⟩

theorem PartsVisible.whole {u : Url} (h : u.PartsVisible) : AllVisible u.text.toList := by
  have hauthority : AllVisible u.authorityText := by
    unfold authorityText
    split
    · rename_i authority hsome
      simp only [allVisible_cons]
      exact ⟨by decide, by decide, h.authority authority hsome⟩
    · split
      · decide
      · exact allVisible_nil
  have hquery : AllVisible u.queryText := by
    unfold queryText
    split
    · exact allVisible_nil
    · rename_i query hsome
      rw [allVisible_cons]
      exact ⟨by decide, h.query query hsome⟩
  have hfragment : AllVisible u.fragmentText := by
    unfold fragmentText
    split
    · exact allVisible_nil
    · rename_i fragment hsome
      rw [allVisible_cons]
      exact ⟨by decide, h.fragment fragment hsome⟩
  rw [Url.text, String.toList_ofList]
  simp only [allVisible_append, allVisible_cons]
  exact ⟨⟨⟨⟨h.scheme, by decide, hauthority⟩, h.path⟩, hquery⟩, hfragment⟩

end Url

/-- **The link to the page of a key consists of visible ASCII characters other than angle brackets**,
whatever the address of the explorer and the key are. -/
theorem Explorer.keyLink_visible (explorer key : String) :
    Url.AllVisible (keyLink explorer key).toList := by
  unfold keyLink
  split
  · exact Url.allVisible_nil
  · rename_i url hurl
    exact ((Url.parse?_visible hurl).descend _).whole

end ValidatorAlarm
