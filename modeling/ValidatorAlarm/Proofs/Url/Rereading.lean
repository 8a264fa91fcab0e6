import ValidatorAlarm.Proofs.Url.Host
import ValidatorAlarm.Proofs.Url.Path

/-!
# Links that are read again

Everything that a link of the web is made of has been brought into its form when the link was read: what
had to be encoded is encoded, the scheme is in small letters, and nothing is left of the blanks around the
link or the line ends within it.  So the text of the link is read as the same link.
-/
namespace ValidatorAlarm.Url

variable {text front back : List Char} {u : Url}

/-! ### Texts without blanks -/

theorem dropWhile_none {p : Char → Bool} (h : ∀ c ∈ text, p c = false) : text.dropWhile p = text := by
  cases text with
  | nil => rfl
  | cons c text => rw [List.dropWhile_cons_of_neg (by rw [h c List.mem_cons_self]; exact Bool.false_ne_true)]

theorem Visible.facts {c : Char} (h : Visible c) : isIgnored c = false ∧ (decide (c ≤ ' ')) = false := by
  refine ⟨?_, decide_eq_false fun hle => ?_⟩
  · simp only [isIgnored, Bool.or_eq_false_iff, decide_eq_false_iff_not]
    refine ⟨⟨?_, ?_⟩, ?_⟩ <;> (rintro rfl; exact absurd h (by decide))
  · exact absurd h.1 (Nat.not_lt.mpr hle)

theorem shown_of_visible (h : AllVisible text) : shown text = text :=
  List.filter_eq_self.mpr fun c hc => by rw [(h c hc).facts.1]; rfl

theorem trim_of_noBlank (h : ∀ c ∈ text, decide (c ≤ ' ') = false) : trim text = text := by
  rw [trim, dropWhile_none h, dropWhile_none fun c hc => h c (List.mem_reverse.mp hc), List.reverse_reverse]

theorem trim_of_visible (h : AllVisible text) : trim text = text := trim_of_noBlank fun c hc => (h c hc).facts.2

/-! ### The parts of a link -/

theorem cut_front {sign : Char} (h : sign ∉ front) (part : Option (List Char)) :
    cut sign (front ++ part.elim [] (sign :: ·)) = (front, part) := by
  cases part with
  | none =>
    obtain ⟨htake, hdrop⟩ := Text.Form.span_all (Text.Form.bne_of_notMem h)
    rw [Option.elim_none, List.append_nil, cut, htake, hdrop]
  | some back =>
    obtain ⟨htake, hdrop⟩ := Text.Form.span_stop back (Text.Form.bne_of_notMem h) (bne_self_eq_false sign)
    rw [Option.elim_some, cut, htake, hdrop]

theorem cut_none {sign : Char} (h : sign ∉ text) : cut sign text = (text, none) := by
  have hcut := cut_front h none
  rwa [Option.elim_none, List.append_nil] at hcut

theorem queryText_eq (u : Url) : u.queryText = u.query.elim [] ('?' :: ·) := by
  unfold queryText
  cases u.query <;> rfl

theorem fragmentText_eq (u : Url) : u.fragmentText = u.fragment.elim [] ('#' :: ·) := by
  unfold fragmentText
  cases u.fragment <;> rfl

theorem mem_webSchemes {scheme : List Char} (h : kindOf scheme = .web) : scheme ∈ webSchemes.map Prod.fst := by
  rw [kindOf] at h
  split at h
  · rename_i hlookup
    obtain ⟨entry, hentry, heq⟩ := List.lookup_isSome_iff.mp hlookup
    exact List.mem_map.mpr ⟨entry, hentry, (beq_iff_eq.mp heq).symm⟩
  · split at h <;> cases h

/-- The scheme of a link of the web is found in front of its colon. -/
theorem splitScheme?_web {scheme : List Char} (hweb : kindOf scheme = .web) (rest : List Char) :
    splitScheme? (scheme ++ ':' :: rest) = some (scheme, rest) := by
  have hschemes : ∀ scheme ∈ webSchemes.map Prod.fst, (∀ c ∈ scheme, (isSchemeChar c || isIgnored c) = true) ∧
      shown scheme = scheme ∧ scheme.head?.any Char.isAlpha = true ∧ scheme.map Char.toLower = scheme := by
    decide
  obtain ⟨hchars, hshown, halpha, hlower⟩ := hschemes scheme (mem_webSchemes hweb)
  obtain ⟨htake, hdrop⟩ := Text.Form.span_stop rest hchars (show (isSchemeChar ':' || isIgnored ':') = false by decide)
  rw [splitScheme?]
  simp only [htake, hdrop, hshown, halpha, hlower, if_true]

/-! ### Links of the web -/

/-- A link of the web as it is read. -/
structure OnWeb (u : Url) : Prop where
  scheme : kindOf u.scheme = .web
  authority : ∃ a, u.authority = some a ∧ a.OnWeb u.scheme
  notSetApart : u.isSetApart = false
  path : ∃ parts, parts ≠ [] ∧ (∀ part ∈ parts, Path.Stays part) ∧ u.path = Path.ofParts parts
  query : ∀ query ∈ u.query, Fixed (queryReservedIn u.scheme) query
  fragment : ∀ fragment ∈ u.fragment, Fixed fragmentReserved fragment
  visible : u.PartsVisible

/-- Can the host of the link be read again? -/
def IsReadable (u : Url) : Prop := ∀ a ∈ u.authority, a.host.IsReadable

instance (u : Url) : Decidable u.IsReadable :=
  inferInstanceAs (Decidable (∀ a ∈ u.authority, a.host.IsReadable))

theorem onWeb_of_parse? {s : String} (h : parse? s = some u) (hweb : kindOf u.scheme = .web) : u.OnWeb := by
  have hvisible := parse?_visible h
  unfold parse? at h
  simp only [Option.bind_eq_bind, Option.bind_eq_some_iff, Option.some.injEq] at h
  obtain ⟨⟨scheme, rest⟩, -, ⟨authority, path⟩, hbody, rfl⟩ := h
  unfold body? at hbody
  rw [show kindOf scheme = .web from hweb] at hbody
  unfold webBody? at hbody
  simp only [Option.bind_eq_bind, Option.bind_eq_some_iff, Option.some.injEq, Prod.mk.injEq] at hbody
  obtain ⟨⟨a, beside⟩, hauthority, rfl, rfl⟩ := hbody
  refine ⟨hweb, ⟨a, rfl, Authority.onWeb_of_parse? hweb hauthority⟩, rfl, exists_parts _, ?_, ?_, hvisible⟩
  · intro query hquery
    obtain ⟨typed, -, rfl⟩ := Option.map_eq_some_iff.mp hquery
    refine fixed_encode (List.Subset.refl _) ?_ _
    unfold queryReservedIn
    split <;> decide
  · intro fragment hfragment
    obtain ⟨typed, -, rfl⟩ := Option.map_eq_some_iff.mp hfragment
    exact fixed_encode (List.Subset.refl _) (by decide) _

/-- What stands between the scheme and the query of a link of the web. -/
theorem webBody?_text {scheme : List Char} {a : Authority} {parts : List (List Char)} (hweb : kindOf scheme = .web)
    (ha : a.OnWeb scheme) (hne : parts ≠ []) (hparts : ∀ part ∈ parts, Path.Stays part)
    (hvisible : AllVisible ('/' :: '/' :: a.text ++ Path.ofParts parts)) :
    webBody? scheme ('/' :: '/' :: a.text ++ Path.ofParts parts) =
      if a.host.IsReadable then some (some a, Path.ofParts parts) else none := by
  have hsigns : ∀ c, isSlash c = true → c ∈ Host.endSigns := fun c hc => by
    rcases Bool.or_eq_true_iff.mp hc with hc | hc <;> (rw [of_decide_eq_true hc]; decide)
  have hslash : ∀ c ∈ a.text, isSlash c = false := fun c hc =>
    Bool.eq_false_iff.mpr fun hc' => Authority.notMem_text ha c hc (hsigns c hc')
  obtain ⟨path, hpath⟩ : ∃ path, Path.ofParts parts = '/' :: path := by
    obtain ⟨part, others, rfl⟩ := List.exists_cons_of_ne_nil hne
    exact ⟨_, Path.ofParts_intercalate part others⟩
  have hagain : Path.ofSegments (encodeAll (splitSlashes path)) = '/' :: path := by
    have h := ofSegments_again hne hparts
    rwa [hpath] at h
  have hbody : ('/' :: '/' :: a.text ++ '/' :: path).dropWhile isSlash = a.text ++ '/' :: path := by
    have hstart : a.text ≠ [] := fun hnil => by
      rw [Authority.text_eq] at hnil
      exact Host.text_ne_nil ha.host (List.append_eq_nil_iff.mp (List.append_eq_nil_iff.mp hnil).1).2
    obtain ⟨c, others, htext⟩ := List.exists_cons_of_ne_nil hstart
    rw [htext] at hslash ⊢
    have hc := hslash c List.mem_cons_self
    simp [isSlash] at hc ⊢
    simp [hc]
  obtain ⟨htake, hdrop⟩ := Text.Form.span_stop path (p := fun c => !isSlash c) (c := '/')
    (fun c hc => by rw [hslash c hc]; rfl) rfl
  rw [hpath] at hvisible ⊢
  rw [webBody?, shown_of_visible hvisible]
  simp only [hbody, htake, hdrop, Authority.parse?_text hweb ha, Option.bind_eq_bind]
  by_cases hreadable : a.host.IsReadable
  · rw [if_pos hreadable, if_pos hreadable, Option.bind_some]
    simp only [dropSlash, show isSlash '/' = true from rfl, if_true, hagain]
  · rw [if_neg hreadable, if_neg hreadable, Option.bind_none]

/-- Neither a query nor a fragment starts within authority and path. -/
theorem notMem_body {scheme : List Char} {a : Authority} {parts : List (List Char)} (ha : a.OnWeb scheme)
    (hparts : ∀ part ∈ parts, Path.Stays part) :
    ∀ sign ∈ ['?', '#'], sign ∉ '/' :: '/' :: a.text ++ Path.ofParts parts := by
  have hsigns : ∀ sign ∈ ['?', '#'], sign ≠ '/' ∧ sign ∈ Host.endSigns ∧ sign ∈ pathReserved := by decide
  intro sign hsign hmem
  obtain ⟨hslash, hend, hreserved⟩ := hsigns sign hsign
  rcases List.mem_append.mp hmem with hmem | hmem
  · rw [List.mem_cons, List.mem_cons] at hmem
    rcases hmem with hmem | hmem | hmem
    · exact hslash hmem
    · exact hslash hmem
    · exact Authority.notMem_text ha _ hmem hend
  · obtain ⟨part, hpart, hmem⟩ := List.mem_flatMap.mp hmem
    rcases List.mem_cons.mp hmem with hmem | hmem
    · exact hslash hmem
    · exact notMem_of_fixed (hparts part hpart).fixed hreserved hmem

/-- A query or fragment that has been encoded stays as it is. -/
theorem map_encode {reserved : List Char} {part : Option (List Char)} (hfixed : ∀ text ∈ part, Fixed reserved text)
    (hvisible : ∀ text ∈ part, AllVisible text) : part.map (fun text => encode reserved (shown text)) = part := by
  cases part with
  | none => rfl
  | some text => rw [Option.map_some, shown_of_visible (hvisible text rfl), encode_of_fixed (hfixed text rfl)]

/-- **The text of a link of the web is read as the link**, if its host can be read again, and not at all
otherwise. -/
theorem parse?_text (h : u.OnWeb) : parse? u.text = if u.IsReadable then some u else none := by
  obtain ⟨hweb, ⟨a, hauthority, ha⟩, hnotSetApart, ⟨parts, hne, hparts, hpath⟩, hquery, hfragment, hvisible⟩ := h
  have hwhole := hvisible.whole
  have htext : u.text.toList = u.scheme ++ ':' :: ('/' :: '/' :: a.text ++ Path.ofParts parts ++
      u.query.elim [] ('?' :: ·) ++ u.fragment.elim [] ('#' :: ·)) := by
    rw [Url.text, String.toList_ofList, queryText_eq, fragmentText_eq, authorityText, hauthority, hpath]
    simp
  have hsigns := notMem_body ha hparts
  have hquerySign : '?' ∉ '/' :: '/' :: a.text ++ Path.ofParts parts := hsigns _ (by decide)
  have hfragmentSign : '#' ∉ '/' :: '/' :: a.text ++ Path.ofParts parts ++ u.query.elim [] ('?' :: ·) := by
    rw [List.mem_append, not_or]
    refine ⟨hsigns _ (by decide), fun hmem => ?_⟩
    cases hsome : u.query with
    | none =>
      rw [hsome] at hmem
      cases hmem
    | some query =>
      rw [hsome, Option.elim_some, List.mem_cons] at hmem
      refine hmem.elim (by decide) (notMem_of_fixed (hquery query hsome) ?_)
      unfold queryReservedIn
      split <;> decide
  have hbody : AllVisible ('/' :: '/' :: a.text ++ Path.ofParts parts) := by
    rw [htext, allVisible_append, allVisible_cons, allVisible_append, allVisible_append] at hwhole
    exact hwhole.2.2.1.1
  unfold parse?
  rw [trim_of_visible hwhole, htext, splitScheme?_web hweb]
  simp only [Option.bind_eq_bind, Option.bind_some, cut_front hfragmentSign, cut_front hquerySign, body?, hweb,
    webBody?_text hweb ha hne hparts hbody, map_encode hquery hvisible.query,
    map_encode hfragment hvisible.fragment]
  have hiff : u.IsReadable ↔ a.host.IsReadable := by
    rw [IsReadable, hauthority]
    exact ⟨fun h => h a rfl, fun h _ heq => Option.some.inj heq ▸ h⟩
  by_cases hreadable : a.host.IsReadable
  · rw [if_pos hreadable, if_pos (hiff.mpr hreadable), Option.bind_some]
    obtain ⟨scheme, authority, isSetApart, path, query, fragment⟩ := u
    cases hauthority
    cases hpath
    cases hnotSetApart
    rfl
  · rw [if_neg hreadable, if_neg (mt hiff.mp hreadable), Option.bind_none]

end ValidatorAlarm.Url
