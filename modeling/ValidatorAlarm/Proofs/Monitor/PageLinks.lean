import ValidatorAlarm.Proofs.Monitor.Cancellation
import ValidatorAlarm.Proofs.Url.Links

/-!
# Alarms that link to the pages of their keys

The link in an alarm leads to a page below the explorer of its monitor, whatever the key is: nothing in a
key can add segments to the path or take some away, or reach the query or the fragment, and different keys
have different links.

There is one limit.  The label of a host may be written in ASCII with more characters than are read there.
Then the explorer is read, but the link that is written for it is not.

An explorer that is no link costs an alarm its link, and nothing else.
-/
namespace ValidatorAlarm

namespace Monitor

open Url (IsPageBelow IsPageKey kindOf)

/-- **The link in an alarm leads to the page of its key, below the explorer of its monitor**, if the explorer
is a link of the web whose host can be read again and whose path is not just two slashes; if its host cannot
be read again, neither can the link.  In any case different keys have different links.

If the explorer is no link, the link in an alarm is empty; the alarms that a cycle lets through are handed
to the fanout all the same. -/
theorem identityUrl_below_explorer (w : Monitor) :
    (∀ explorer, Url.parse? w.explorer = some explorer → kindOf explorer.scheme = .web →
      explorer.path ≠ ['/', '/'] →
        (∀ problem : Problem, IsPageKey problem.key →
          (explorer.IsReadable →
            ∃ link, Url.parse? (w.message problem).identityUrl = some link ∧
              IsPageBelow explorer problem.key link) ∧
          (¬ explorer.IsReadable → Url.parse? (w.message problem).identityUrl = none)) ∧
        ∀ problem other : Problem, IsPageKey problem.key → IsPageKey other.key →
          (w.message problem).identityUrl = (w.message other).identityUrl → problem.key = other.key) ∧
    (Url.parse? w.explorer = none →
      (∀ problem, (w.message problem).identityUrl = "") ∧
      ∀ (token : Token) (now : Nat) (cancelled : List Token) (planned : List (Nat × Token)) (before : Site)
        (looked : Agenda Site) (problems : List Problem),
        (⟨now, cancelled, planned, [], before⟩ : Agenda Site).perform (w.findProblems token) =
          (looked, some (.ok problems)) →
        w.passed before looked.now problems ≠ [] →
        ∃ after result,
          (⟨now, cancelled, planned, [], before⟩ : Agenda Site).perform (w.cycle token) =
            (after, some result) ∧
          w.RaisedCycle before looked problems (w.passed before looked.now problems) after.state result) := by
  constructor
  · intro explorer hexplorer hweb hpath
    exact ⟨fun problem hkey => Explorer.parse?_keyLink hexplorer hweb hpath hkey,
      fun problem other hkey hother hsame => Explorer.keyLink_injective hexplorer hweb hpath hkey hother hsame⟩
  · intro hnone
    refine ⟨fun problem => Explorer.keyLink_of_none hnone problem.key, ?_⟩
    intro token now cancelled planned before looked problems hlooked hpassed
    obtain ⟨after, result, hcycle, hcase⟩ := cycle_found w token hlooked
    rw [if_neg hpassed] at hcase
    exact ⟨after, result, hcycle, hcase⟩

/-- A monitor with an explorer. -/
def linking (explorer : String) : Monitor := { pausing ["k"] (.ofMilliseconds 30) with explorer := explorer }

theorem identityUrl_linking (explorer : String) (problem : Problem) :
    ((linking explorer).message problem).identityUrl = Explorer.keyLink explorer problem.key := rfl

/-- A key that would lead elsewhere if it were taken for a path, and an explorer that is a mail address. -/
theorem identityUrl_of_odd_key :
    (∃ explorer link, Url.parse? "https://me:pw@e.io:8443/a/?x#y" = some explorer ∧
      kindOf explorer.scheme = .web ∧ explorer.path ≠ ['/', '/'] ∧ explorer.IsReadable ∧ IsPageKey "../%?#" ∧
      Url.parse? ((linking "https://me:pw@e.io:8443/a/?x#y").message
        ⟨"../%?#", .jail ⟨.zero, .zero⟩⟩).identityUrl = some link ∧
      IsPageBelow explorer "../%?#" link) ∧
    Url.parse? "mailto:me@e.io" = none ∧
    ((linking "mailto:me@e.io").message ⟨"k", .jail ⟨.zero, .zero⟩⟩).identityUrl = "" ∧
    ∃ looked after result,
      (Agenda.start unhurried).perform ((linking "mailto:me@e.io").findProblems 0) =
        (looked, some (.ok [⟨"k", .jail ⟨.zero, .zero⟩⟩])) ∧
      (Agenda.start unhurried).perform ((linking "mailto:me@e.io").cycle 0) = (after, some result) ∧
      (linking "mailto:me@e.io").RaisedCycle unhurried looked [⟨"k", .jail ⟨.zero, .zero⟩⟩]
        [⟨"k", .jail ⟨.zero, .zero⟩⟩] after.state result := by
  constructor
  · have hexplorer : Url.parse? "https://me:pw@e.io:8443/a/?x#y" = some {
        scheme := "https".toList
        authority := some ⟨"me".toList, "pw".toList, .name "e.io".toList, some 8443⟩
        isSetApart := false
        path := "/a/".toList
        query := some "x".toList
        fragment := some "y".toList } := by decide +kernel
    have hreadable : Url.Domain.IsReadable "e.io".toList := by decide
    obtain ⟨link, hlink, hbelow⟩ := (((identityUrl_below_explorer (linking "https://me:pw@e.io:8443/a/?x#y")).1 _
      hexplorer (by decide) (by decide)).1 ⟨"../%?#", .jail ⟨.zero, .zero⟩⟩ (by decide)).1
      fun a ha => Option.some.inj ha ▸ hreadable
    exact ⟨_, link, hexplorer, by decide, by decide, fun a ha => Option.some.inj ha ▸ hreadable, by decide, hlink, hbelow⟩
  · have hnone : Url.parse? "mailto:me@e.io" = none := by decide
    obtain ⟨hempty, hsent⟩ := (identityUrl_below_explorer (linking "mailto:me@e.io")).2 hnone
    have hcourse : (((linking "mailto:me@e.io").findProblems 0).course 0 unhurried).2.2 =
        some (.ok [⟨"k", .jail ⟨.zero, .zero⟩⟩]) := by decide +kernel
    have htime : (((linking "mailto:me@e.io").findProblems 0).course 0 unhurried).1 = 45 := by decide +kernel
    have hnever : Agenda.Awaits 0 none (Agenda.start unhurried) := .anew 0 0 unhurried
    obtain ⟨looked, hfound, -, hnow, -⟩ := Agenda.perform_course
      ((linking "mailto:me@e.io").findProblems_heeds 0) hnever (fun c hc => by cases hc)
    have hlooked := hfound.trans (congrArg (Prod.mk looked) hcourse)
    have hpassed : (linking "mailto:me@e.io").passed unhurried looked.now [⟨"k", .jail ⟨.zero, .zero⟩⟩] =
        [⟨"k", .jail ⟨.zero, .zero⟩⟩] := by
      rw [hnow]
      decide
    obtain ⟨after, result, hcycle, hraised⟩ := hsent 0 0 [] [] unhurried looked _ hlooked (by rw [hpassed]; decide)
    rw [hpassed] at hraised
    exact ⟨hnone, hempty _, looked, after, result, hlooked, hcycle, hraised⟩

/-- The address of an explorer whose name has 720 ideographs. -/
def longExplorer : String := String.ofList ("http://".toList ++ Url.Domain.farApart 720)

/-- An explorer that is read, and a link to a page of it that is not. -/
theorem identityUrl_of_long_explorer :
    ∃ explorer, Url.parse? longExplorer = some explorer ∧ kindOf explorer.scheme = .web ∧
      explorer.path ≠ ['/', '/'] ∧ IsPageKey "k" ∧
      Url.parse? ((linking longExplorer).message ⟨"k", .jail ⟨.zero, .zero⟩⟩).identityUrl = none := by
  have hideographs : Url.Domain.AreIdeographs (Url.Domain.farApart 720) :=
    Url.Domain.areIdeographs_farApart (Nat.le_refl _)
  have hlength := Url.Domain.length_farApart 720
  have hne : Url.Domain.farApart 720 ≠ [] := fun hnil => by
    rw [hnil] at hlength
    exact absurd hlength (by decide)
  have hexplorer : Url.parse? longExplorer = some _ :=
    Url.parse?_ideographs hideographs hne (by rw [hlength]; decide)
  have hkey : IsPageKey "k" := by decide
  have hpath : ['/'] ≠ ['/', '/'] := by decide
  have hlong := Url.Domain.not_isReadable_farApart (n := 720) (by decide) (Nat.le_refl _)
  have hlink : Url.parse? (Explorer.keyLink longExplorer "k") = none :=
    (Explorer.parse?_keyLink hexplorer rfl hpath hkey).2 fun hreadable => hlong (hreadable _ rfl)
  exact ⟨_, hexplorer, rfl, hpath, hkey, by rw [identityUrl_linking, hlink]⟩

end Monitor

end ValidatorAlarm
