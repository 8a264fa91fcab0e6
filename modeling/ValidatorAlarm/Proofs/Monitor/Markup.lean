import ValidatorAlarm.Monitor
import ValidatorAlarm.Proofs.Message.Tags
import ValidatorAlarm.Proofs.Url.Visible

/-!
# Alarms in rendered batches

The messages of a monitor are clear: of what it puts into them, neither the link nor the short key nor
the numbers of the ratings hold a bracket, a line end or what else would be taken for something in the
body.  This holds for every address of the explorer and for all ratings, numbers or not.
-/
namespace ValidatorAlarm

open Text (FreeOf)

namespace Binary

open Number

variable {f : Format}

theorem paddedDigits_isDigit {width n : Nat} {c : Char} (h : c ∈ paddedDigits width n) :
    c.isDigit = true := by
  rcases List.mem_append.mp h with hzero | hdigit
  · rw [List.eq_of_mem_replicate hzero]
    rfl
  · exact Nat.isDigit_of_mem_toDigits (by decide) (by decide) hdigit

theorem special_characters (x : Binary f) : ∀ c ∈ x.special, c ∈ ['-', 'i', 'n', 'f', 'N', 'a'] := by
  unfold special
  split_ifs <;> decide

/-- A number is written with digits, a point and a sign, or as a word. -/
theorem fixed_characters (places : Nat) (x : Binary f) {c : Char} (h : c ∈ (x.fixed places).toList) :
    c.isDigit = true ∨ c ∈ ['.', '-', 'i', 'n', 'f', 'N', 'a'] := by
  unfold fixed at h
  split at h
  · simp only [String.toList_ofList, List.mem_append] at h
    rcases h with (hsign | hwhole) | hpart
    · split at hsign
      · rw [List.mem_singleton.mp hsign]
        decide
      · cases hsign
    · exact .inl (paddedDigits_isDigit (List.mem_of_mem_take hwhole))
    · split at hpart
      · cases hpart
      · rcases List.mem_cons.mp hpart with rfl | hpart
        · decide
        · exact .inl (paddedDigits_isDigit (List.mem_of_mem_drop hpart))
  · rw [String.toList_ofList] at h
    exact .inr (List.mem_cons_of_mem _ (special_characters x c h))

theorem fixed_free (places : Nat) (x : Binary f) : FreeOf ['<', '>', '\n'] (x.fixed places) := by
  have hword : ∀ c ∈ ['.', '-', 'i', 'n', 'f', 'N', 'a'], c ∉ ['<', '>', '\n'] := by decide
  have hdigit : ∀ d ∈ ['<', '>', '\n'], d.isDigit = false := by decide
  intro c hc
  rcases fixed_characters places x hc with hc | hc
  · intro hmark
    rw [hdigit c hmark] at hc
    cases hc
  · exact hword c hc

end Binary

namespace Alarm

theorem text_free (alarm : Alarm) : FreeOf ['<', '>', '\n'] alarm.text := by
  have hbetween : FreeOf ['<', '>', '\n'] ", rating: " := by decide
  have hratings : ∀ {lead : String}, FreeOf ['<', '>', '\n'] lead → ∀ r : Rating,
      FreeOf ['<', '>', '\n'] (lead ++ r.temporary.fixed 2 ++ ", rating: " ++ r.settled.fixed 2) := by
    intro lead hlead r
    exact ((hlead.append (Binary.fixed_free 2 _)).append hbetween).append (Binary.fixed_free 2 _)
  cases alarm with
  | jail r => exact hratings (by decide) r
  | drop r => exact hratings (by decide) r

theorem text_ne_empty (alarm : Alarm) : alarm.text ≠ "" := by
  have hlead : ∀ {lead : String} (a b c : String), lead ≠ "" → lead ++ a ++ b ++ c ≠ "" := by
    intro lead a b c hne h
    rw [String.append_eq_empty_iff, String.append_eq_empty_iff, String.append_eq_empty_iff] at h
    exact hne h.1.1.1
  cases alarm with
  | jail r => exact hlead _ _ _ (by decide)
  | drop r => exact hlead _ _ _ (by decide)

end Alarm

/-- A key of hexadecimal digits. -/
def IsHexKey (key : String) : Prop := ∀ c ∈ key.toList, (Text.Form.digitValue? c).isSome = true

theorem shortKey_characters {key : String} {c : Char} (h : c ∈ (shortKey key).toList) :
    c ∈ key.toList ∨ c = '.' := by
  simp only [shortKey] at h
  split at h
  · exact .inl h
  · simp only [String.toList_ofList, List.mem_append] at h
    rcases h with (hfront | hdots) | hback
    · exact .inl (List.mem_of_mem_take hfront)
    · exact .inr (by simpa using hdots)
    · exact .inl (List.mem_of_mem_drop hback)

theorem IsHexKey.shortKey_free {key : String} (h : IsHexKey key) :
    FreeOf ['<', '>', '\n', ':', ' '] (shortKey key) := by
  have hdot : '.' ∉ ['<', '>', '\n', ':', ' '] := by decide
  have hnone : ∀ d ∈ ['<', '>', '\n', ':', ' '], Text.Form.digitValue? d = none := by decide
  intro c hc
  rcases shortKey_characters hc with hkey | rfl
  · intro hmark
    have hsome := h c hkey
    rw [hnone c hmark] at hsome
    cases hsome
  · exact hdot

theorem Url.AllVisible.free {text : String} (h : AllVisible text.toList) :
    FreeOf ['<', '>', '\n'] text := by
  have hnot : ∀ d ∈ ['<', '>', '\n'], ¬Visible d := by decide
  intro c hc hmark
  exact hnot c hmark (h c hc)

namespace Monitor

/-- **The messages of a monitor are clear**, wherever its explorer is and whatever the ratings are. -/
theorem message_clear (w : Monitor) {problem : Problem} (hkey : IsHexKey problem.key) :
    (w.message problem).Clear where
  category := by
    have hcategory : FreeOf ['<', '>', '\n', ':'] category := by decide
    exact hcategory
  link := Url.AllVisible.free (Explorer.keyLink_visible w.explorer problem.key)
  key := hkey.shortKey_free
  detail := problem.alarm.text_free
  detail_ne := problem.alarm.text_ne_empty

/-- **Alarms never break the markup.**  Every link consists of visible ASCII characters other than
brackets.  The body of a batch has no bracket but in the tags of the markup, which stand around the
name of each key and behind each paragraph, and the alarms are read back from it one by one. -/
theorem alarms_keep_markup (w : Monitor) {problems : List Problem}
    (hkeys : ∀ problem ∈ problems, IsHexKey problem.key) (hsome : problems ≠ []) :
    (∀ key, ∀ c ∈ (Explorer.keyLink w.explorer key).toList,
      32 < c.toNat ∧ c.toNat < 127 ∧ c ≠ '<' ∧ c ≠ '>') ∧
    ∀ form ∈ Message.taggedMarkups, ∃ batch gs,
      Message.render? form.1 (problems.map w.message) = some batch ∧
      Glyph.read? batch.body.toList = some gs ∧
      gs.filterMap Glyph.tag? =
        (problems.flatMap fun problem => (w.message problem).tags ++ form.2).map String.toList ∧
      Told.readAll gs = problems.map fun problem =>
        ⟨Explorer.keyLink w.explorer problem.key, shortKey problem.key, problem.alarm.text⟩ := by
  refine ⟨Explorer.keyLink_visible w.explorer, ?_⟩
  intro form hform
  have hclear : ∀ m ∈ problems.map w.message, m.Clear := by
    intro m hm
    obtain ⟨problem, hproblem, rfl⟩ := List.mem_map.mp hm
    exact w.message_clear (hkeys problem hproblem)
  have hbatch : problems.map w.message ≠ [] := by
    rwa [Ne, List.map_eq_nil_iff]
  obtain ⟨batch, hrendered, hread⟩ := Message.read?_render hform hbatch hclear
  refine ⟨batch, _, hrendered, hread, ?_, ?_⟩
  · rw [Message.batchGlyphs_tags, List.flatMap_map]
  · rw [Told.readAll_batch hform hclear, List.map_map]
    rfl

/-- A monitor whose explorer has an address with a bracket. -/
def oddlyLinked : Monitor where
  position := 0
  name := "m"
  explorer := "https://e.io/<"
  check := ratingsCheck .zero []
  accounts := []
  queryPause := .ofSeconds 1
  snooze := .off
  reporter := .off
  fanout := ⟨[], 0, .ofSeconds 1⟩

/-- A mail about ratings that are no numbers. -/
theorem alarms_keep_markup_odd_address :
    let problems : List Problem :=
      [⟨"0a", .jail ⟨⟨true, Number.Format.single.infinity⟩, .nan⟩⟩, ⟨"0b", .drop ⟨.zero, .nan⟩⟩]
    (∀ problem ∈ problems, IsHexKey problem.key) ∧ problems ≠ [] ∧
      ∃ batch gs, Message.render? .mail (problems.map oddlyLinked.message) = some batch ∧
        Glyph.read? batch.body.toList = some gs ∧
        gs.filterMap Glyph.tag? =
          ["b", "a href=\"https://e.io/%3C/nodes/0a\"", "/a", "/b", "br",
            "b", "a href=\"https://e.io/%3C/nodes/0b\"", "/a", "/b", "br"].map String.toList ∧
        Told.readAll gs =
          [⟨"https://e.io/%3C/nodes/0a", "0a", "Imminent jail: temp rating: -inf, rating: NaN"⟩,
            ⟨"https://e.io/%3C/nodes/0b", "0b",
              "Rating drop detected: temp rating: 0.00, rating: NaN"⟩] := by
  intro problems
  have hkeys : ∀ problem ∈ problems, IsHexKey problem.key := by
    unfold IsHexKey
    decide
  have hsome : problems ≠ [] := by decide
  obtain ⟨batch, gs, hrendered, hread, htags, htold⟩ :=
    (alarms_keep_markup oddlyLinked hkeys hsome).2 (.mail, ["br"]) (by simp [Message.taggedMarkups])
  refine ⟨hkeys, hsome, batch, gs, hrendered, hread, ?_, ?_⟩
  · rw [htags]
    decide +kernel
  · rw [htold]
    decide +kernel

end Monitor

end ValidatorAlarm
