import ValidatorAlarm.Proofs.Url.Domain.Folded
import ValidatorAlarm.Proofs.Url.Percent
import ValidatorAlarm.Proofs.Url.Punycode

/-!
# Names that are read again

The ASCII form of a name is read as itself, unless it has a label whose ASCII writing is longer than what
is read: such a label can be written, but not read back.
-/
namespace ValidatorAlarm.Url.Domain

open Text.Form (splitAt)

variable {label name folded out : List Char} {l : Label}

/-- Is an ASCII label short enough to be read? -/
def Label.IsReadable (written : List Char) : Prop :=
  asciiMark.isPrefixOf written = true → written.length ≤ asciiMark.length + maxWritten

instance (written : List Char) : Decidable (Label.IsReadable written) :=
  inferInstanceAs (Decidable (_ → _))

/-- Are all labels of a name in ASCII short enough to be read? -/
def IsReadable (name : List Char) : Prop := ∀ label ∈ splitAt '.' name, Label.IsReadable label

instance (name : List Char) : Decidable (IsReadable name) :=
  inferInstanceAs (Decidable (∀ label ∈ splitAt '.' name, Label.IsReadable label))

/-- What the ASCII form of a name consists of: small ASCII letters and what is no letter. -/
def IsSmall (c : Char) : Prop := isAscii c = true ∧ c.toLower = c

theorem folded?_small (h : ∀ c ∈ name, IsSmall c) : folded? name = some name := by
  unfold folded?
  rw [if_pos (List.all_eq_true.mpr fun c hc => (h c hc).1)]
  exact congrArg some ((List.map_congr_left fun c hc => (h c hc).2).trans (List.map_id' name))

/-! ### Labels -/

theorem isSmall_of_settled (hsettled : ∀ c ∈ label, Settled c.toNat) (hascii : label.all isAscii = true) :
    ∀ c ∈ label, IsSmall c := fun c hc =>
  ⟨List.all_eq_true.mp hascii c hc, toLower_of_settled (hsettled c hc) (List.all_eq_true.mp hascii c hc)⟩

theorem isSmall_encode (hsettled : ∀ c ∈ label, Settled c.toNat) : ∀ c ∈ Punycode.encode label, IsSmall c := by
  have hdigits : ∀ m < 36, isAscii (Punycode.digit m) = true ∧
      (Punycode.digit m).toLower = Punycode.digit m := by decide
  refine List.forall_mem_append.mpr ⟨?_, fun c hc => ?_⟩
  · have hbasic : ∀ c ∈ label.filter (·.toNat < Punycode.firstCode), IsSmall c := fun c hc => by
      obtain ⟨hc, hascii⟩ := List.mem_filter.mp hc
      exact ⟨hascii, toLower_of_settled (hsettled c hc) hascii⟩
    split
    · exact List.forall_mem_nil _
    · exact List.forall_mem_append.mpr ⟨hbasic, List.forall_mem_singleton.mpr ⟨rfl, rfl⟩⟩
  · obtain ⟨m, hm, rfl⟩ := Punycode.writeCodes_digits _ _ _ c hc
    exact hdigits m hm

theorem notMem_encode (h : '.' ∉ label) : '.' ∉ Punycode.encode label := by
  have hdigits : ∀ m < 36, '.' ≠ Punycode.digit m := by decide
  intro hmem
  rcases List.mem_append.mp hmem with hbasic | hcodes
  · split at hbasic
    · cases hbasic
    · rcases List.mem_append.mp hbasic with hc | hc
      · exact h (List.mem_filter.mp hc).1
      · exact absurd (List.mem_singleton.mp hc) (by decide)
  · obtain ⟨m, hm, hdigit⟩ := Punycode.writeCodes_digits _ _ _ _ hcodes
    exact hdigits m hm hdigit

/-- The three ways in which a label is read. -/
inductive Label.Reads (label : List Char) (l : Label) : Prop
  | written (hmark : asciiMark.isPrefixOf label = true) (hascii : label.all isAscii = true)
    (hread : Label.ofWritten? label = some l)
  | plain (hmark : asciiMark.isPrefixOf label = false) (hascii : label.all isAscii = true)
    (hlabel : l = ⟨label, label⟩)
  | shown (hshown : Label.isShown label = true) (hlabel : l = ⟨label, asciiMark ++ Punycode.encode label⟩)

theorem Label.reads_of_read? (h : Label.read? label = some l) : Label.Reads label l := by
  unfold Label.read? at h
  split at h
  · rename_i hmark
    rw [Option.ite_none_right_eq_some] at h
    exact .written hmark h.1 h.2
  · rename_i hmark
    split at h
    · rename_i hascii
      exact .plain (Bool.eq_false_iff.mpr hmark) hascii (Option.some.inj h).symm
    · rw [Option.ite_none_right_eq_some] at h
      exact .shown h.1 (Option.some.inj h.2).symm

theorem Label.ofWritten?_length (h : Label.ofWritten? label = some l) : Label.IsReadable label := by
  intro hmark
  unfold Label.ofWritten? at h
  simp only [Option.bind_eq_bind, Option.bind_none, Option.ite_none_left_eq_some] at h
  have hlength := h.1
  rw [List.length_drop] at hlength
  omega

theorem Label.read?_shown (hshown : Label.isShown label = true) (hfolded : folded? label = some label) :
    Label.read? (asciiMark ++ Punycode.encode label) =
      if (Punycode.encode label).length ≤ maxWritten then
        some ⟨label, asciiMark ++ Punycode.encode label⟩ else none := by
  have hmark : asciiMark.isPrefixOf (asciiMark ++ Punycode.encode label) = true :=
    List.isPrefixOf_iff_prefix.mpr (List.prefix_append _ _)
  have hascii : (asciiMark ++ Punycode.encode label).all isAscii = true := by
    rw [List.all_append, Bool.and_eq_true]
    exact ⟨rfl, List.all_eq_true.mpr fun c hc => decide_eq_true (Punycode.encode_ascii label c hc)⟩
  have hdrop : (asciiMark ++ Punycode.encode label).drop asciiMark.length = Punycode.encode label :=
    List.drop_left
  rw [Label.read?, if_pos hmark, if_pos hascii]
  unfold Label.ofWritten?
  simp only [hdrop, Punycode.decode?_encode, Option.bind_eq_bind, Option.bind_some, Option.bind_none, hshown,
    hfolded]
  by_cases hlength : (Punycode.encode label).length ≤ maxWritten
  · rw [if_pos hlength, if_neg (by omega)]
    simp
  · rw [if_neg hlength, if_pos (by omega)]

/-- The ASCII writing of a label is read as the label if it is not too long. -/
theorem Label.read?_written (h : Label.Reads label l) (hfolded : folded? label = some label) :
    Label.read? l.written = if Label.IsReadable l.written then some l else none := by
  cases h with
  | written hmark hascii hread =>
    rw [Label.ofWritten?_written hread, if_pos (Label.ofWritten?_length hread), Label.read?, if_pos hmark,
      if_pos hascii, hread]
  | plain hmark hascii hlabel =>
    subst hlabel
    have hreadable : Label.IsReadable label := fun hprefix => by
      rw [hmark] at hprefix
      cases hprefix
    rw [if_pos hreadable, Label.read?, if_neg (Bool.eq_false_iff.mp hmark), if_pos hascii]
  | shown hshown hlabel =>
    subst hlabel
    rw [Label.read?_shown hshown hfolded]
    have hmark : asciiMark.isPrefixOf (asciiMark ++ Punycode.encode label) = true :=
      List.isPrefixOf_iff_prefix.mpr (List.prefix_append _ _)
    have hiff : Label.IsReadable (asciiMark ++ Punycode.encode label) ↔
        (Punycode.encode label).length ≤ maxWritten := by
      rw [Label.IsReadable, List.length_append]
      exact ⟨fun h => by have hlength := h hmark; omega, fun h _ => by omega⟩
    simp only [hiff]

theorem Label.small_written (h : Label.Reads label l) (hsettled : ∀ c ∈ label, Settled c.toNat) :
    ∀ c ∈ l.written, IsSmall c := by
  cases h with
  | written hmark hascii hread =>
    rw [Label.ofWritten?_written hread]
    exact isSmall_of_settled hsettled hascii
  | plain hmark hascii hlabel =>
    subst hlabel
    exact isSmall_of_settled hsettled hascii
  | shown hshown hlabel =>
    subst hlabel
    have hmark : ∀ c ∈ asciiMark, isAscii c = true ∧ c.toLower = c := by decide
    exact List.forall_mem_append.mpr ⟨hmark, isSmall_encode hsettled⟩

theorem Label.notMem_written (h : Label.Reads label l) (hstop : '.' ∉ label) : '.' ∉ l.written := by
  cases h with
  | written hmark hascii hread => rwa [Label.ofWritten?_written hread]
  | plain hmark hascii hlabel =>
    subst hlabel
    exact hstop
  | shown hshown hlabel =>
    subst hlabel
    have hmark : '.' ∉ asciiMark := by decide
    exact fun hmem => (List.mem_append.mp hmem).elim hmark (notMem_encode hstop)

/-! ### Names -/

/-- The labels of a name with what is known of them. -/
theorem labels_of_ofName? {isForbidden : Char → Bool} (h : ofName? isForbidden name = some out) :
    ∃ labels : List Label, out = List.intercalate ['.'] (labels.map (·.written)) ∧
      splitAt '.' out = labels.map (·.written) ∧
      (areDirected (labels.map (·.shown)) && !labels.any (·.written.any isForbidden)) = true ∧
      ∀ l ∈ labels, (∀ c ∈ l.written, IsSmall c) ∧
        Label.read? l.written = if Label.IsReadable l.written then some l else none := by
  unfold ofName? at h
  simp only [Option.bind_eq_bind, Option.bind_eq_some_iff, Option.ite_none_right_eq_some,
    Option.some.injEq] at h
  obtain ⟨folded, hfolded, labels, hlabels, hfit, rfl⟩ := h
  have hreads : ∀ l ∈ labels, ∃ label ∈ splitAt '.' folded, Label.Reads label l := fun l hl => by
    obtain ⟨label, hlabel, hread⟩ := mem_of_mapM hlabels hl
    exact ⟨label, hlabel, Label.reads_of_read? hread⟩
  refine ⟨labels, rfl, ?_, hfit, fun l hl => ?_⟩
  · refine Text.Form.splitAt_intercalate (fun part hpart => ?_) fun hnil => ?_
    · obtain ⟨l, hl, rfl⟩ := List.mem_map.mp hpart
      obtain ⟨label, hlabel, hl⟩ := hreads l hl
      exact Label.notMem_written hl (Text.Form.notMem_splitAt '.' folded label hlabel)
    · rw [List.map_eq_nil_iff.mp hnil] at hlabels
      obtain ⟨first, others, hparts⟩ := List.exists_cons_of_ne_nil (Text.Form.splitAt_ne_nil '.' folded)
      rw [hparts, List.mapM_cons] at hlabels
      simp [Option.bind_eq_some_iff] at hlabels
  · obtain ⟨label, hlabel, hl⟩ := hreads l hl
    have hsubset := Text.Form.splitAt_subset '.' folded label hlabel
    exact ⟨Label.small_written hl fun c hc => settled_folded hfolded c (hsubset hc),
      Label.read?_written hl (folded?_label hfolded hlabel)⟩

/-- **The ASCII form of a name is read as itself**, unless it has a label that is too long to be read. -/
theorem ofName?_again {isForbidden : Char → Bool} (h : ofName? isForbidden name = some out) :
    ofName? isForbidden out = if IsReadable out then some out else none := by
  obtain ⟨labels, hout, hparts, hfit, hlabels⟩ := labels_of_ofName? h
  have hsmall : ∀ c ∈ out, IsSmall c := by
    intro c hc
    rcases Text.Form.exists_part '.' hc with rfl | ⟨part, hpart, hc⟩
    · exact ⟨rfl, rfl⟩
    · rw [hparts] at hpart
      obtain ⟨l, hl, rfl⟩ := List.mem_map.mp hpart
      exact (hlabels l hl).1 c hc
  unfold ofName?
  simp only [folded?_small hsmall, hparts, Option.bind_eq_bind, Option.bind_some]
  by_cases hreadable : IsReadable out
  · rw [if_pos hreadable, mapM_map_eq_some, Option.bind_some, if_pos hfit, ← hout]
    intro l hl
    rw [(hlabels l hl).2, if_pos (hreadable l.written (by rw [hparts]; exact List.mem_map_of_mem hl))]
  · rw [if_neg hreadable, mapM_eq_none_iff.mpr, Option.bind_none]
    simp only [IsReadable, hparts, List.forall_mem_map, not_forall] at hreadable
    obtain ⟨l, hl, hlong⟩ := hreadable
    exact ⟨l.written, List.mem_map_of_mem hl, by rw [(hlabels l hl).2, if_neg hlong]⟩

/-! ### Names of hosts -/

theorem ofBytes?_text (text : List Char) :
    ofBytes? (text.flatMap String.utf8EncodeChar) = ofName? isForbidden text := by
  have hbytes : Text.ofUtf8? (text.flatMap String.utf8EncodeChar) = some (String.ofList text) := by
    have hread := Text.ofUtf8?_utf8 (String.ofList text)
    rwa [Text.utf8, String.toList_ofList] at hread
  rw [ofBytes?, hbytes, Option.bind_eq_bind, Option.bind_some, String.toList_ofList]

theorem ofBytes?_again {bytes : List UInt8} (h : ofBytes? bytes = some out) :
    ofBytes? (decode out) = if IsReadable out then some out else none := by
  obtain ⟨s, -, h⟩ := Option.bind_eq_some_iff.mp h
  have hpercent : '%' ∉ out := fun hmem => absurd (allowed_of_ofName? h _ hmem).2 (by decide)
  rw [decode_of_notMem hpercent, ofBytes?_text]
  exact ofName?_again h

/-- The characters of an address of four bytes. -/
def addressChars : List Char := "0123456789.".toList

/-- An address of four bytes is a name that stands for itself. -/
theorem ofBytes?_address (h : ∀ c ∈ out, c ∈ addressChars) : ofBytes? (decode out) = some out := by
  have hchars : ∀ c ∈ addressChars, isAscii c = true ∧ c.toLower = c ∧ isForbidden c = false ∧
      (direction c).isLeftward = false ∧ c ≠ 'x' ∧ c ≠ '%' := by
    decide +kernel
  have hall : ∀ c ∈ out, _ := fun c hc => hchars c (h c hc)
  have hpercent : '%' ∉ out := fun hmem => (hall _ hmem).2.2.2.2.2 rfl
  have hparts : ∀ part ∈ splitAt '.' out, ∀ c ∈ part, _ := fun part hpart c hc =>
    hall c (Text.Form.splitAt_subset '.' out part hpart hc)
  have hread : ∀ part ∈ splitAt '.' out, Label.read? part = some ⟨part, part⟩ := fun part hpart => by
    have hascii : part.all isAscii = true := List.all_eq_true.mpr fun c hc => (hparts part hpart c hc).1
    have hmark : ¬ asciiMark.isPrefixOf part = true := fun hprefix => by
      obtain ⟨others, rfl⟩ := List.isPrefixOf_iff_prefix.mp hprefix
      exact (hparts _ hpart 'x' (by simp [asciiMark])).2.2.2.2.1 rfl
    rw [Label.read?, if_neg hmark, if_pos hascii]
  have hlabels : (splitAt '.' out).mapM Label.read? = some ((splitAt '.' out).map fun part => ⟨part, part⟩) := by
    have hmap : (((splitAt '.' out).map fun part => Label.mk part part).map (·.written)).mapM Label.read? = _ :=
      mapM_map_eq_some (List.forall_mem_map.mpr hread)
    rwa [List.map_map, Function.comp_def, List.map_id'] at hmap
  have hdirected : areDirected (splitAt '.' out) = true := by
    rw [areDirected, if_neg]
    rw [List.any_eq_true]
    rintro ⟨part, hpart, hleft⟩
    obtain ⟨c, hc, hleft⟩ := List.any_eq_true.mp hleft
    rw [(hparts part hpart c hc).2.2.2.1] at hleft
    cases hleft
  have hallowed : (splitAt '.' out).any (·.any isForbidden) = false :=
    List.any_eq_false.mpr fun part hpart => by
      rw [Bool.not_eq_true, List.any_eq_false]
      exact fun c hc => by rw [(hparts part hpart c hc).2.2.1]; exact Bool.false_ne_true
  rw [decode_of_notMem hpercent, ofBytes?_text, ofName?,
    folded?_small fun c hc => ⟨(hall c hc).1, (hall c hc).2.1⟩]
  simp only [Option.bind_eq_bind, Option.bind_some, hlabels, List.map_map, List.any_map, Function.comp_def,
    List.map_id', hdirected, hallowed, Bool.not_false, Bool.and_true, if_true, Text.Form.intercalate_splitAt]

end ValidatorAlarm.Url.Domain
