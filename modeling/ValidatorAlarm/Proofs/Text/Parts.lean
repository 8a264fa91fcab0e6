import Mathlib.Data.List.Basic
import ValidatorAlarm.Text.Form

/-!
# The parts of a text

A text between separators and the parts of it are two views of one thing: parts without a separator in
them can be put together and are found again, and the parts of a text put together are the text.  What is
read part by part is read exactly if every part is.
-/
namespace ValidatorAlarm

/-! ### Reading one by one -/

section Reading

variable {α β : Type} {read : α → Option β} {l : List α} {out : List β}

theorem mem_of_mapM (h : l.mapM read = some out) {b : β} (hb : b ∈ out) : ∃ a ∈ l, read a = some b := by
  induction l generalizing out with
  | nil =>
    cases h
    cases hb
  | cons a l ih =>
    rw [List.mapM_cons] at h
    simp only [Option.bind_eq_bind, Option.bind_eq_some_iff] at h
    obtain ⟨first, hfirst, others, hothers, hout⟩ := h
    cases hout
    rcases List.mem_cons.mp hb with rfl | hb
    · exact ⟨a, List.mem_cons_self, hfirst⟩
    · obtain ⟨d, hd, hread⟩ := ih hothers hb
      exact ⟨d, List.mem_cons_of_mem _ hd, hread⟩

theorem mapM_eq_none_iff : l.mapM read = none ↔ ∃ a ∈ l, read a = none := by
  induction l with
  | nil => simp
  | cons a l ih => cases h : read a <;> cases hl : l.mapM read <;> simp_all

/-- What is written one by one is read again. -/
theorem mapM_map_eq_some {write : β → α} (h : ∀ b ∈ out, read (write b) = some b) :
    (out.map write).mapM read = some out := by
  induction out with
  | nil => rfl
  | cons b out ih =>
    rw [List.forall_mem_cons] at h
    rw [List.map_cons, List.mapM_cons, h.1, ih h.2]
    rfl

end Reading

namespace Text.Form

/-! ### Where a text stops -/

section Stop

variable {p : Char → Bool} {c separator : Char} {front text : List Char}

/-- A text is cut where the first character fails. -/
theorem span_stop (back : List Char) (hfront : ∀ d ∈ front, p d = true) (hstop : p c = false) :
    (front ++ c :: back).takeWhile p = front ∧ (front ++ c :: back).dropWhile p = c :: back := by
  rw [List.takeWhile_append_of_pos hfront, List.dropWhile_append_of_pos hfront]
  simp [hstop]

theorem span_all (h : ∀ d ∈ text, p d = true) : text.takeWhile p = text ∧ text.dropWhile p = [] := by
  have htake : (text ++ []).takeWhile p = text ++ [].takeWhile p := List.takeWhile_append_of_pos h
  have hdrop : (text ++ []).dropWhile p = [].dropWhile p := List.dropWhile_append_of_pos h
  rw [List.append_nil] at htake hdrop
  exact ⟨htake.trans (List.append_nil text), hdrop⟩

theorem bne_of_notMem (h : separator ∉ text) : ∀ d ∈ text, (d != separator) = true := fun d hd => by
  rw [bne_iff_ne]
  rintro rfl
  exact h hd

end Stop


variable {separator : Char} {front back text : List Char} {parts : List (List Char)}

theorem splitAt_eq_splitOn (separator : Char) (text : List Char) :
    splitAt separator text = text.splitOn separator := by
  unfold List.splitOn
  induction text with
  | nil => rfl
  | cons c text ih =>
    rw [splitAt, List.splitOnP_cons_eq_if_modifyHead, ih]
    by_cases hc : c = separator
    · simp [hc]
    · simp only [hc, if_false, beq_iff_eq]
      obtain ⟨part, parts, hparts⟩ :=
        List.exists_cons_of_ne_nil (List.splitOnP_ne_nil (fun c => c == separator) text)
      rw [hparts]
      rfl

theorem splitAt_ne_nil (separator : Char) (text : List Char) : splitAt separator text ≠ [] := by
  rw [splitAt_eq_splitOn]
  exact List.splitOnP_ne_nil _ _

/-- Parts that have been put together are found again. -/
theorem splitAt_intercalate (hparts : ∀ part ∈ parts, separator ∉ part) (hne : parts ≠ []) :
    splitAt separator (List.intercalate [separator] parts) = parts := by
  rw [splitAt_eq_splitOn]
  exact List.splitOn_intercalate separator hparts hne

theorem intercalate_splitAt (separator : Char) (text : List Char) :
    List.intercalate [separator] (splitAt separator text) = text := by
  rw [splitAt_eq_splitOn]
  exact List.intercalate_splitOn separator

/-- What holds of all parts and of the separator holds of what is put together. -/
theorem forall_mem_intercalate {P : Char → Prop} (hparts : ∀ part ∈ parts, ∀ c ∈ part, P c) (hc : P separator) :
    ∀ c ∈ List.intercalate [separator] parts, P c := by
  induction parts with
  | nil => exact List.forall_mem_nil _
  | cons part parts ih =>
    obtain ⟨hpart, hothers⟩ := List.forall_mem_cons.mp hparts
    cases parts with
    | nil =>
      rw [List.intercalate_singleton]
      exact hpart
    | cons next parts =>
      rw [List.intercalate_cons_cons]
      exact List.forall_mem_append.mpr ⟨List.forall_mem_append.mpr ⟨hpart, List.forall_mem_singleton.mpr hc⟩, ih hothers⟩

theorem splitAt_of_notMem (h : separator ∉ text) : splitAt separator text = [text] := by
  rw [splitAt_eq_splitOn]
  refine List.splitOnP_eq_singleton fun c hc => ?_
  rw [beq_eq_false_iff_ne]
  rintro rfl
  exact h hc

theorem splitAt_append (h : separator ∉ front) :
    splitAt separator (front ++ separator :: back) = front :: splitAt separator back := by
  induction front with
  | nil => rw [List.nil_append, splitAt, if_pos rfl]
  | cons c front ih =>
    rw [List.mem_cons, not_or] at h
    rw [List.cons_append, splitAt, if_neg (Ne.symm h.1), ih h.2]

/-- The parts of two texts with a separator between them are the parts of both. -/
theorem splitAt_joined (separator : Char) (front back : List Char) :
    splitAt separator (front ++ separator :: back) = splitAt separator front ++ splitAt separator back := by
  induction front with
  | nil => simp [splitAt]
  | cons c front ih =>
    by_cases hc : c = separator
    · simp [splitAt, hc, ih]
    · obtain ⟨part, parts, hparts⟩ := List.exists_cons_of_ne_nil (splitAt_ne_nil separator front)
      simp [splitAt, hc, ih, hparts]

/-- There is one more part than there are separators. -/
theorem length_splitAt (separator : Char) (text : List Char) :
    (splitAt separator text).length = text.count separator + 1 := by
  induction text with
  | nil => rfl
  | cons c text ih =>
    by_cases hc : c = separator
    · simp [splitAt, hc, ih]
    · obtain ⟨part, parts, hparts⟩ := List.exists_cons_of_ne_nil (splitAt_ne_nil separator text)
      rw [hparts] at ih
      simpa [splitAt, hc, hparts] using ih

/-- A text is one part, or a part and a separator and a text. -/
theorem exists_front (separator : Char) (text : List Char) :
    separator ∉ text ∨ ∃ front back, text = front ++ separator :: back ∧ separator ∉ front := by
  by_cases hmem : separator ∈ text
  · obtain ⟨front, back, rfl, hfront⟩ := List.eq_append_cons_of_mem hmem
    exact .inr ⟨front, back, rfl, hfront⟩
  · exact .inl hmem

/-- What is handed on to both sides of a separator holds of all parts. -/
theorem splitAt_all {P : List Char → Prop}
    (hsplit : ∀ {front back}, separator ∉ front → P (front ++ separator :: back) → P front ∧ P back)
    (htext : P text) : ∀ part ∈ splitAt separator text, P part := by
  induction hlength : text.length using Nat.strongRecOn generalizing text with
  | ind length ih =>
    rcases exists_front separator text with hnone | ⟨front, back, rfl, hfront⟩
    · rw [splitAt_of_notMem hnone, List.forall_mem_singleton]
      exact htext
    · obtain ⟨hleft, hright⟩ := hsplit hfront htext
      rw [splitAt_append hfront, List.forall_mem_cons]
      exact ⟨hleft, ih back.length (by simp at hlength; omega) hright rfl⟩

theorem notMem_splitAt (separator : Char) (text : List Char) :
    ∀ part ∈ splitAt separator text, separator ∉ part := by
  induction hlength : text.length using Nat.strongRecOn generalizing text with
  | ind length ih =>
    rcases exists_front separator text with hnone | ⟨front, back, rfl, hfront⟩
    · rw [splitAt_of_notMem hnone, List.forall_mem_singleton]
      exact hnone
    · rw [splitAt_append hfront, List.forall_mem_cons]
      exact ⟨hfront, ih back.length (by simp at hlength; omega) back rfl⟩

theorem exists_part (separator : Char) {c : Char} (h : c ∈ text) :
    c = separator ∨ ∃ part ∈ splitAt separator text, c ∈ part := by
  induction hlength : text.length using Nat.strongRecOn generalizing text with
  | ind length ih =>
    rcases exists_front separator text with hnone | ⟨front, back, rfl, hfront⟩
    · exact .inr ⟨text, by rw [splitAt_of_notMem hnone]; exact List.mem_cons_self, h⟩
    · rw [splitAt_append hfront]
      rcases List.mem_append.mp h with hc | hc
      · exact .inr ⟨front, List.mem_cons_self, hc⟩
      · rcases List.mem_cons.mp hc with rfl | hc
        · exact .inl rfl
        · refine (ih back.length (by simp at hlength; omega) hc rfl).imp_right ?_
          rintro ⟨part, hpart, hc⟩
          exact ⟨part, List.mem_cons_of_mem _ hpart, hc⟩

/-- The characters of a part are characters of the text. -/
theorem splitAt_subset (separator : Char) (text : List Char) :
    ∀ part ∈ splitAt separator text, part ⊆ text :=
  splitAt_all (P := (· ⊆ text)) (fun _ h => ⟨fun _ hc => h (List.mem_append_left _ hc),
    fun _ hc => h (List.mem_append_right _ (List.mem_cons_of_mem _ hc))⟩) (List.Subset.refl text)

end Text.Form

end ValidatorAlarm
