import ValidatorAlarm.Proofs.Text.Parts
import ValidatorAlarm.Proofs.Url.Percent
import ValidatorAlarm.Url

/-!
# Paths as segments

The path of a link of the web is a slash before each of its segments.  None of them takes another away or
stands for nothing, and none holds a slash or anything that has to be encoded; so the path is read as
the same segments again, and a link one segment deeper has exactly one more of them.
-/
namespace ValidatorAlarm.Url

namespace Path

variable {segment : List Char} {typed front parts : List (List Char)}

/-- The path of some segments. -/
def ofParts (parts : List (List Char)) : Path := parts.flatMap ('/' :: ·)

/-- The segments of a path. -/
def segments (path : Path) : List (List Char) := Text.Form.splitAt '/' (path.drop 1)

/-- Segments without an empty one at their end. -/
def withoutOpenEnd (parts : List (List Char)) : List (List Char) :=
  if parts.getLast? = some [] then parts.dropLast else parts

/-- An encoded segment between slashes. -/
structure IsSegment (segment : List Char) : Prop where
  fixed : Fixed pathReserved segment
  noSlash : ∀ c ∈ segment, isSlash c = false

/-- A segment that stays in its place when a path is read. -/
structure Stays (segment : List Char) : Prop extends IsSegment segment where
  notHere : isHere segment = false
  notUp : isUp segment = false

theorem IsSegment.notMem (h : IsSegment segment) : '/' ∉ segment := fun hmem =>
  absurd (h.noSlash _ hmem) (by decide)

theorem stays_nil : Stays [] where
  fixed := fun c hc => by cases hc
  noSlash := fun c hc => by cases hc
  notHere := rfl
  notUp := rfl

/-! ### Segments put together -/

theorem ofParts_append (front back : List (List Char)) : ofParts (front ++ back) = ofParts front ++ ofParts back :=
  List.flatMap_append

theorem ofParts_singleton (segment : List Char) : ofParts [segment] = '/' :: segment := by
  rw [ofParts, List.flatMap_singleton]

theorem ofParts_intercalate (segment : List Char) (parts : List (List Char)) :
    ofParts (segment :: parts) = '/' :: List.intercalate ['/'] (segment :: parts) := by
  induction parts generalizing segment with
  | nil => rw [ofParts_singleton, List.intercalate_singleton]
  | cons next parts ih =>
    rw [ofParts, List.flatMap_cons, ← ofParts, ih, List.intercalate_cons_cons]
    simp

theorem segments_ofParts (hne : parts ≠ []) (h : ∀ part ∈ parts, '/' ∉ part) : segments (ofParts parts) = parts := by
  obtain ⟨segment, parts, rfl⟩ := List.exists_cons_of_ne_nil hne
  rw [segments, ofParts_intercalate, List.drop_one, List.tail_cons]
  exact Text.Form.splitAt_intercalate h hne

theorem length_ofParts (h : (ofParts parts).length = 1) : parts = [[]] := by
  cases parts with
  | nil => simp [ofParts] at h
  | cons segment parts =>
    simp only [ofParts, List.flatMap_cons, List.length_append, List.length_cons] at h
    have hsegment : segment = [] := List.length_eq_zero_iff.mp (by omega)
    cases parts with
    | nil => rw [hsegment]
    | cons next parts =>
      simp only [List.flatMap_cons, List.length_append, List.length_cons] at h
      omega

/-! ### Reading segments -/

theorem span_segment (path : Path) (h : '/' ∉ segment) :
    (path ++ '/' :: segment).reverse.takeWhile (· != '/') = segment.reverse ∧
      (path ++ '/' :: segment).reverse.dropWhile (· != '/') = '/' :: path.reverse := by
  rw [List.reverse_append, List.reverse_cons, List.append_assoc]
  exact Text.Form.span_stop _ (Text.Form.bne_of_notMem (mt List.mem_reverse.mp h)) rfl

/-- A segment that goes up takes at most the last one away. -/
theorem up_ofParts (h : ∀ part ∈ front, '/' ∉ part) :
    ∃ kept ⊆ front, up (ofParts front ++ ['/']) = ofParts kept ++ ['/'] := by
  rcases List.eq_nil_or_concat front with rfl | ⟨others, last, rfl⟩
  · exact ⟨[], List.Subset.refl _, rfl⟩
  · rw [List.concat_eq_append] at h ⊢
    have hlast : '/' ∉ last := h last (by simp)
    unfold up
    simp only [List.dropLast_concat]
    split
    · refine ⟨others, List.subset_append_left _ _, ?_⟩
      rw [ofParts_append, ofParts_singleton, (span_segment _ hlast).2, List.reverse_cons, List.reverse_reverse]
    · exact ⟨others ++ [last], List.Subset.refl _, rfl⟩

/-- What one more segment does to an open path: it leads elsewhere, or it stays. -/
theorem add_ofParts (hfront : ∀ part ∈ front, Stays part) (hsegment : IsSegment segment) :
    (∃ kept, (∀ part ∈ kept, Stays part) ∧
      ∀ slash, add (ofParts front ++ ['/']) segment slash = ofParts kept ++ ['/']) ∨
    Stays segment ∧ ∀ slash, add (ofParts front ++ ['/']) segment slash =
      ofParts (front ++ [segment]) ++ if slash then ['/'] else [] := by
  unfold add
  by_cases hup : isUp segment = true
  · obtain ⟨kept, hsubset, heq⟩ := up_ofParts fun part hpart => (hfront part hpart).notMem
    exact .inl ⟨kept, fun part hpart => hfront part (hsubset hpart), fun slash => by rw [if_pos hup, heq]⟩
  · by_cases hhere : isHere segment = true
    · exact .inl ⟨front, hfront, fun slash => by rw [if_neg hup, if_pos hhere]⟩
    · refine .inr ⟨⟨hsegment, Bool.eq_false_iff.mpr hhere, Bool.eq_false_iff.mpr hup⟩, fun slash => ?_⟩
      rw [if_neg hup, if_neg hhere, ofParts_append, ofParts_singleton]
      simp

theorem addAll_ofParts (front : List (List Char)) (hfront : ∀ part ∈ front, Stays part) (hne : typed ≠ [])
    (htyped : ∀ segment ∈ typed, IsSegment segment) :
    ∃ parts, parts ≠ [] ∧ (∀ part ∈ parts, Stays part) ∧
      addAll (ofParts front ++ ['/']) typed = ofParts parts := by
  induction typed generalizing front with
  | nil => exact absurd rfl hne
  | cons segment typed ih =>
    rw [List.forall_mem_cons] at htyped
    have hadd := add_ofParts hfront htyped.1
    cases typed with
    | nil =>
      rcases hadd with ⟨kept, hkept, heq⟩ | ⟨hstays, heq⟩
      · refine ⟨kept ++ [[]], by simp, List.forall_mem_append.mpr ⟨hkept, List.forall_mem_singleton.mpr stays_nil⟩, ?_⟩
        rw [addAll, heq, ofParts_append, ofParts_singleton]
      · refine ⟨front ++ [segment], by simp, List.forall_mem_append.mpr ⟨hfront, List.forall_mem_singleton.mpr hstays⟩, ?_⟩
        rw [addAll, heq, if_neg Bool.false_ne_true, List.append_nil]
    | cons next typed =>
      rcases hadd with ⟨kept, hkept, heq⟩ | ⟨hstays, heq⟩
      · rw [addAll, heq]
        · exact ih kept hkept (List.cons_ne_nil _ _) htyped.2
        · exact fun h => by cases h
      · rw [addAll, heq, if_pos rfl]
        · exact ih (front ++ [segment]) (List.forall_mem_append.mpr ⟨hfront, List.forall_mem_singleton.mpr hstays⟩)
            (List.cons_ne_nil _ _) htyped.2
        · exact fun h => by cases h

/-- Segments that stay are read as they are. -/
theorem addAll_stays (front : List (List Char)) (hne : parts ≠ []) (h : ∀ part ∈ parts, Stays part) :
    addAll (ofParts front ++ ['/']) parts = ofParts (front ++ parts) := by
  have hadd : ∀ front segment slash, Stays segment → add (ofParts front ++ ['/']) segment slash =
      ofParts (front ++ [segment]) ++ if slash then ['/'] else [] := fun front segment slash hsegment => by
    rw [add, if_neg (Bool.eq_false_iff.mp hsegment.notUp), if_neg (Bool.eq_false_iff.mp hsegment.notHere),
      ofParts_append, ofParts_singleton]
    simp
  induction parts generalizing front with
  | nil => exact absurd rfl hne
  | cons segment parts ih =>
    rw [List.forall_mem_cons] at h
    cases parts with
    | nil => rw [addAll, hadd _ _ _ h.1, if_neg Bool.false_ne_true, List.append_nil]
    | cons next parts =>
      rw [addAll, hadd _ _ _ h.1, if_pos rfl, ih _ (List.cons_ne_nil _ _) h.2, List.append_assoc,
        List.singleton_append]
      exact fun h => by cases h

theorem ofSegments_stays (hne : parts ≠ []) (h : ∀ part ∈ parts, Stays part) : ofSegments parts = ofParts parts :=
  addAll_stays [] hne h

/-! ### One segment deeper -/

theorem push_ofParts (hempty : front ≠ [[]]) (h : Stays segment) :
    (ofParts front).push segment = ofParts (front ++ [segment]) := by
  have hlength : (ofParts front).length ≠ 1 := fun h => hempty (length_ofParts h)
  rw [push, if_neg hlength, add, if_neg (Bool.eq_false_iff.mp h.notUp), if_neg (Bool.eq_false_iff.mp h.notHere),
    ofParts_append, ofParts_singleton]
  simp

/-- A path without the slash at its end, and one segment deeper. -/
theorem push_closeEnd (hne : parts ≠ []) (htwo : parts ≠ [[], []]) (hparts : ∀ part ∈ parts, Stays part)
    (h : Stays segment) :
    (closeEnd (ofParts parts)).push segment = ofParts (withoutOpenEnd parts ++ [segment]) := by
  rcases List.eq_nil_or_concat parts with rfl | ⟨front, last, rfl⟩
  · exact absurd rfl hne
  · rw [List.concat_eq_append] at *
    cases last with
    | nil =>
      have hopen : withoutOpenEnd (front ++ [[]]) = front := by
        rw [withoutOpenEnd, List.getLast?_concat, if_pos rfl, List.dropLast_concat]
      rw [hopen, ofParts_append, ofParts_singleton]
      cases front with
      | nil =>
        rw [List.nil_append, ofParts_singleton, closeEnd, if_neg (by decide), push, if_pos (by rfl), add,
          if_neg (Bool.eq_false_iff.mp h.notUp), if_neg (Bool.eq_false_iff.mp h.notHere)]
        simp [ofParts]
      | cons first front =>
        have hlength : (ofParts (first :: front) ++ ['/']).length > 1 := by
          simp only [ofParts, List.flatMap_cons, List.length_append, List.length_cons]
          omega
        have hopen : (decide ((ofParts (first :: front) ++ ['/']).length > 1) && decide (some '/' = some '/')) = true := by
          rw [decide_eq_true hlength]
          rfl
        rw [closeEnd, List.getLast?_concat, if_pos hopen, List.dropLast_concat]
        refine push_ofParts ?_ h
        rintro hfirst
        exact htwo (by rw [hfirst]; rfl)
    | cons c last =>
      have hend : (ofParts (front ++ [c :: last])).getLast? = (c :: last).getLast? := by
        rw [ofParts_append, ofParts_singleton, List.getLast?_append_cons, List.getLast?_cons_cons]
      have hslash : (c :: last).getLast? ≠ some '/' := fun hlast =>
        (hparts (c :: last) (by simp)).notMem (List.mem_of_getLast? hlast)
      have hclosed : withoutOpenEnd (front ++ [c :: last]) = front ++ [c :: last] := by
        rw [withoutOpenEnd, List.getLast?_concat, if_neg (by simp)]
      rw [hclosed, closeEnd, hend, if_neg (by simp [hslash])]
      refine push_ofParts (fun hone => ?_) h
      have hcount := congrArg List.getLast? hone
      rw [List.getLast?_concat] at hcount
      cases hcount

end Path

/-! ### Segments as they are typed -/

section Typed

open Url.Path

theorem isSlash_eq_false {c : Char} : isSlash c = false ↔ c ≠ '/' ∧ c ≠ '\\' := by
  rw [isSlash, Bool.or_eq_false_iff, decide_eq_false_iff_not, decide_eq_false_iff_not]

theorem noSlash_encode {reserved typed : List Char} (h : ∀ c ∈ typed, isReserved reserved c = false → isSlash c = false) :
    ∀ c ∈ encode reserved typed, isSlash c = false := by
  have hsigns : ∀ c ∈ percentChars, isSlash c = false := by decide
  intro c hc
  rcases mem_encode hc with hsign | ⟨hc, hfree⟩
  · exact hsigns c hsign
  · exact h c hc hfree

/-- Typed segments are encoded, and there is no slash of either direction in them. -/
theorem isSegment_typed {text segment : List Char} (h : segment ∈ encodeAll (splitSlashes text)) :
    IsSegment segment := by
  obtain ⟨typed, htyped, rfl⟩ := List.mem_map.mp h
  refine ⟨fixed_encode (List.Subset.refl _) (by decide) typed, noSlash_encode fun c hc _ => ?_⟩
  rw [isSlash_eq_false]
  refine ⟨?_, ?_⟩
  · rintro rfl
    exact Text.Form.notMem_splitAt _ _ typed htyped hc
  · rintro rfl
    obtain ⟨d, -, hd⟩ := List.mem_map.mp (Text.Form.splitAt_subset _ _ typed htyped hc)
    split at hd
    · cases hd
    · contradiction

/-- **The path of a link of the web is the path of segments that stay.** -/
theorem exists_parts (text : List Char) :
    ∃ parts, parts ≠ [] ∧ (∀ part ∈ parts, Stays part) ∧
      ofSegments (encodeAll (splitSlashes text)) = ofParts parts :=
  addAll_ofParts [] (List.forall_mem_nil _)
    (fun h => Text.Form.splitAt_ne_nil _ _ (List.map_eq_nil_iff.mp h)) fun _ => isSegment_typed

/-- **Segments that stay are read again** from the path that is made of them. -/
theorem ofSegments_again {parts : List (List Char)} (hne : parts ≠ []) (h : ∀ part ∈ parts, Stays part) :
    ofSegments (encodeAll (splitSlashes ((ofParts parts).drop 1))) = ofParts parts := by
  have hslash : ∀ part ∈ parts, '/' ∉ part := fun part hpart => (h part hpart).notMem
  have hplain : ∀ c ∈ (ofParts parts).drop 1, (if c = '\\' then '/' else c) = c := fun c hc => by
    rw [if_neg]
    rintro rfl
    obtain ⟨part, hpart, hmem⟩ := List.mem_flatMap.mp (List.mem_of_mem_drop hc)
    rcases List.mem_cons.mp hmem with heq | hmem
    · cases heq
    · exact absurd ((h part hpart).noSlash _ hmem) (by decide)
  have hfixed : encodeAll parts = parts :=
    (List.map_congr_left fun part hpart => encode_of_fixed (h part hpart).fixed).trans (List.map_id' parts)
  rw [splitSlashes, List.map_congr_left hplain, List.map_id']
  exact (congrArg (ofSegments <| encodeAll ·) (segments_ofParts hne hslash)).trans
    ((congrArg ofSegments hfixed).trans (ofSegments_stays hne h))

end Typed

/-! ### Segments that stand for a text -/

namespace Path

/-- A dot that is written plainly stands for its byte, and so does one that is encoded. -/
theorem decode_plainDots {segment rest : List Char} (h : plainDots segment = '.' :: rest) :
    ∃ back, plainDots back = rest ∧ decode segment = 46 :: decode back := by
  unfold plainDots at h
  split at h
  · rename_i back
    exact ⟨back, (List.cons.inj h).2, rfl⟩
  · rename_i back
    exact ⟨back, (List.cons.inj h).2, rfl⟩
  · rename_i c back _ _
    obtain ⟨rfl, hback⟩ := List.cons.inj h
    exact ⟨back, hback, decode_cons (by decide)⟩
  · cases h

theorem plainDots_eq_nil {segment : List Char} (h : plainDots segment = []) : segment = [] := by
  unfold plainDots at h
  split at h
  · cases h
  · cases h
  · cases h
  · rfl

theorem decode_of_isHere {segment : List Char} (h : isHere segment = true) : decode segment = [46] := by
  obtain ⟨back, hback, hdecode⟩ := decode_plainDots (of_decide_eq_true h)
  rw [hdecode, plainDots_eq_nil hback]
  rfl

theorem decode_of_isUp {segment : List Char} (h : isUp segment = true) : decode segment = [46, 46] := by
  obtain ⟨back, hback, hdecode⟩ := decode_plainDots (of_decide_eq_true h)
  obtain ⟨end', hend, hdecode'⟩ := decode_plainDots hback
  rw [hdecode, hdecode', plainDots_eq_nil hend]
  rfl

end Path

/-- The reserved characters of a single segment in a link of the web. -/
abbrev keyReserved : List Char := '\\' :: segmentReserved

/-- **The encoding of a text is a segment that stays**, unless the text is one or two dots. -/
theorem stays_encode {key : List Char} (hhere : key ≠ ['.']) (hup : key ≠ ['.', '.']) :
    Path.Stays (encode keyReserved key) where
  fixed := fixed_encode (by decide) (by decide) key
  noSlash := noSlash_encode fun c _ hfree => by
    rw [isSlash_eq_false]
    refine ⟨?_, ?_⟩ <;> (rintro rfl; revert hfree; decide)
  notHere := Bool.eq_false_iff.mpr fun h => hhere <| eq_of_decode_encode keyReserved (by decide) <|
    (Path.decode_of_isHere h).trans (by decide)
  notUp := Bool.eq_false_iff.mpr fun h => hup <| eq_of_decode_encode keyReserved (by decide) <|
    (Path.decode_of_isUp h).trans (by decide)

end ValidatorAlarm.Url
