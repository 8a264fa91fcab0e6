import Mathlib.Tactic.SplitIfs
import ValidatorAlarm.Message.Markup

/-!
# Tags in rendered batches

A batch is rendered with tags and nothing is escaped.  So the parts of a message must not hold what
stands for something in the body: brackets, line ends, and in front of the detail colons and spaces.
Of messages whose parts are clear of these, the body can be read back.

A body is taken as a list of glyphs, where a tag counts as one.  A text falls apart into glyphs in at
most one way (`Glyph.read?_eq_some_iff`); the body of a batch of clear messages falls apart into those
of their paragraphs (`Message.read?_render`), and from these the messages are read one by one
(`Told.readFrom_batch`).
-/
namespace ValidatorAlarm

/-- None of some characters occurs in a text. -/
def Text.FreeOf (marks : List Char) (text : String) : Prop := ∀ c ∈ text.toList, c ∉ marks

namespace Text.FreeOf

variable {marks : List Char} {a b : String}

instance : Decidable (FreeOf marks a) := inferInstanceAs (Decidable (∀ _ ∈ _, _))

theorem append (ha : FreeOf marks a) (hb : FreeOf marks b) : FreeOf marks (a ++ b) := by
  intro c hc
  rw [String.toList_append, List.mem_append] at hc
  rcases hc with hc | hc
  · exact ha c hc
  · exact hb c hc

theorem weaken {fewer : List Char} (h : FreeOf marks a) (hfewer : fewer ⊆ marks) : FreeOf fewer a := by
  intro c hc hmark
  exact h c hc (hfewer hmark)

end Text.FreeOf

/-- A piece of a text with tags. -/
inductive Glyph where
  | char (c : Char)
  | tag (text : List Char)
deriving DecidableEq

namespace Glyph

def spell : Glyph → List Char
  | .char c => [c]
  | .tag text => '<' :: (text ++ ['>'])

def char? : Glyph → Option Char
  | .char c => some c
  | .tag _ => none

def tag? : Glyph → Option (List Char)
  | .char _ => none
  | .tag text => some text

/-- A text without tags. -/
def plain (text : List Char) : List Glyph := text.map .char

/-- Reads a text to its end.  Within a tag, what has been read of it is held in reverse. -/
def readFrom? : Option (List Char) → List Char → Option (List Glyph)
  | none, [] => some []
  | some _, [] => none
  | none, c :: rest =>
    if c = '<' then readFrom? (some []) rest
    else if c = '>' then none
    else (readFrom? none rest).map (.char c :: ·)
  | some inside, c :: rest =>
    if c = '<' then none
    else if c = '>' then (readFrom? none rest).map (.tag inside.reverse :: ·)
    else readFrom? (some (c :: inside)) rest

/-- The glyphs of a text; none if a bracket opens or closes no tag. -/
def read? (text : List Char) : Option (List Glyph) := readFrom? none text

def brackets : List Char := ['<', '>']

theorem notMem_brackets {c : Char} : c ∉ brackets ↔ c ≠ '<' ∧ c ≠ '>' := by
  simp [brackets]

/-- None of some characters stands for itself, and no tag holds a bracket. -/
def Avoids (marks : List Char) : Glyph → Prop
  | .char c => c ∉ marks
  | .tag text => ∀ c ∈ text, c ∉ brackets

/-- No bracket stands for itself or within a tag. -/
abbrev Proper (g : Glyph) : Prop := g.Avoids brackets

theorem Avoids.weaken {marks fewer : List Char} {g : Glyph} (h : g.Avoids marks) (hfewer : fewer ⊆ marks) :
    g.Avoids fewer := by
  cases g with
  | char c => exact fun hmark => h (hfewer hmark)
  | tag text => exact h

theorem Avoids.ne {marks : List Char} {g : Glyph} (h : g.Avoids marks) {d : Char} (hd : d ∈ marks) :
    g ≠ .char d := by
  rintro rfl
  exact h hd

theorem readFrom?_tag {text : List Char} (h : ∀ c ∈ text, c ∉ brackets) (inside rest : List Char) :
    readFrom? (some inside) (text ++ '>' :: rest) =
      (readFrom? none rest).map (.tag (inside.reverse ++ text) :: ·) := by
  induction text generalizing inside with
  | nil => simp [readFrom?]
  | cons c text ih =>
    obtain ⟨hopen, hclose⟩ := notMem_brackets.mp (h c List.mem_cons_self)
    have hrest := ih (fun c hc => h c (List.mem_cons_of_mem _ hc)) (c :: inside)
    simp [readFrom?, hopen, hclose, hrest]

theorem readFrom?_spell {g : Glyph} (h : g.Proper) (rest : List Char) :
    readFrom? none (g.spell ++ rest) = (readFrom? none rest).map (g :: ·) := by
  cases g with
  | char c =>
    obtain ⟨hopen, hclose⟩ := notMem_brackets.mp h
    simp [spell, readFrom?, hopen, hclose]
  | tag text =>
    have htag := readFrom?_tag h [] rest
    simpa [spell, readFrom?] using htag

theorem readFrom?_proper {gs : List Glyph} (h : ∀ g ∈ gs, g.Proper) :
    readFrom? none (gs.flatMap spell) = some gs := by
  induction gs with
  | nil => rfl
  | cons g gs ih =>
    have hrest := ih fun g hg => h g (List.mem_cons_of_mem _ hg)
    rw [List.flatMap_cons, readFrom?_spell (h g List.mem_cons_self), hrest]
    rfl

/-- Nothing of a text is lost on reading, be it read from its beginning or from within a tag. -/
theorem readFrom?_sound (text : List Char) :
    (∀ gs, readFrom? none text = some gs → gs.flatMap spell = text ∧ ∀ g ∈ gs, g.Proper) ∧
    ∀ inside gs, (∀ c ∈ inside, c ∉ brackets) → readFrom? (some inside) text = some gs →
      gs.flatMap spell = '<' :: (inside.reverse ++ text) ∧ ∀ g ∈ gs, g.Proper := by
  -- a tag that opens goes on within, and one that closes goes on outside
  induction text with
  | nil =>
    refine ⟨?_, ?_⟩
    · rintro gs ⟨⟩
      exact ⟨rfl, fun g hg => absurd hg List.not_mem_nil⟩
    · rintro inside gs - ⟨⟩
  | cons c text ih =>
    obtain ⟨ihout, ihin⟩ := ih
    refine ⟨?_, ?_⟩
    · intro gs hread
      simp only [readFrom?] at hread
      split_ifs at hread with hopen hclose
      · obtain ⟨hspell, hproper⟩ := ihin [] gs (by simp) hread
        subst hopen
        exact ⟨hspell, hproper⟩
      · obtain ⟨rest, hrest, rfl⟩ := Option.map_eq_some_iff.mp hread
        obtain ⟨hspell, hproper⟩ := ihout rest hrest
        have hc : c ∉ brackets := notMem_brackets.mpr ⟨hopen, hclose⟩
        refine ⟨?_, List.forall_mem_cons.mpr ⟨hc, hproper⟩⟩
        rw [List.flatMap_cons, hspell]
        rfl
    · intro inside gs hinside hread
      simp only [readFrom?] at hread
      split_ifs at hread with hopen hclose
      · obtain ⟨rest, hrest, rfl⟩ := Option.map_eq_some_iff.mp hread
        obtain ⟨hspell, hproper⟩ := ihout rest hrest
        have htag : ∀ d ∈ inside.reverse, d ∉ brackets := by
          intro d hd
          exact hinside d (List.mem_reverse.mp hd)
        refine ⟨?_, List.forall_mem_cons.mpr ⟨htag, hproper⟩⟩
        subst hclose
        simp [spell, hspell]
      · have hc : c ∉ brackets := notMem_brackets.mpr ⟨hopen, hclose⟩
        have hmore := ihin (c :: inside) gs (List.forall_mem_cons.mpr ⟨hc, hinside⟩) hread
        simpa using hmore

/-- **A text falls apart into glyphs in at most one way**: what is read is what the text is written
from, without brackets inside. -/
theorem read?_eq_some_iff {text : List Char} {gs : List Glyph} :
    read? text = some gs ↔ gs.flatMap spell = text ∧ ∀ g ∈ gs, g.Proper := by
  constructor
  · intro hread
    exact (readFrom?_sound text).1 gs hread
  · rintro ⟨rfl, hproper⟩
    exact readFrom?_proper hproper

theorem spell_plain (text : List Char) : (plain text).flatMap spell = text := by
  induction text with
  | nil => rfl
  | cons c text ih =>
    rw [plain, List.map_cons, List.flatMap_cons, ← plain, ih]
    rfl

theorem filterMap_plain (text : List Char) : (plain text).filterMap char? = text := by
  induction text with
  | nil => rfl
  | cons c text ih =>
    rw [plain, List.map_cons, List.filterMap_cons, ← plain, ih]
    rfl

theorem filterMap_plain_tag (text : List Char) : (plain text).filterMap tag? = [] := by
  rw [List.filterMap_eq_nil_iff]
  intro g hg
  obtain ⟨c, -, rfl⟩ := List.mem_map.mp hg
  rfl

theorem plain_avoids {marks : List Char} {text : String} (h : Text.FreeOf marks text) :
    ∀ g ∈ plain text.toList, g.Avoids marks := by
  intro g hg
  obtain ⟨c, hc, rfl⟩ := List.mem_map.mp hg
  exact h c hc

end Glyph

/-! ### Messages as glyphs -/

namespace Message

open Glyph (plain brackets)
open Text (FreeOf)

def linkTag (url : String) : Glyph := .tag ("a href=\"" ++ url ++ "\"").toList

/-- How a message names what it is about: a bold link, bold text, or nothing. -/
def identifierGlyphs (m : Message) : List Glyph :=
  if m.identityUrl ≠ "" then
    [.tag "b".toList, linkTag m.identityUrl] ++ plain m.shortIdentityKey.toList ++
      [.tag "/a".toList, .tag "/b".toList]
  else if m.shortIdentityKey = "" then []
  else [.tag "b".toList] ++ plain m.shortIdentityKey.toList ++ [.tag "/b".toList]

/-- What stands in front of the name. -/
def lead (m : Message) : String := m.severity.icon ++ " " ++ m.category ++ " "

/-- What stands behind the name. -/
def telling (m : Message) : String := if m.detail = "" then "" else ": " ++ m.detail

/-- A paragraph up to its line ends. -/
def lineGlyphs (m : Message) : List Glyph :=
  plain m.lead.toList ++ m.identifierGlyphs ++ plain m.telling.toList

def glyphs (m : Message) : List Glyph := m.lineGlyphs ++ plain "\n\n".toList

theorem identifier_spell (m : Message) :
    (m.identifier .html).toList = m.identifierGlyphs.flatMap Glyph.spell := by
  unfold identifier identifierGlyphs
  split
  · simp [Markup.html, Glyph.spell, linkTag, Glyph.spell_plain]
  · split
    · rfl
    · simp [Markup.html, Glyph.spell, Glyph.spell_plain]

theorem paragraph_spell (m : Message) :
    (m.paragraph .html).toList = m.glyphs.flatMap Glyph.spell := by
  unfold paragraph glyphs lineGlyphs lead telling
  simp only [String.toList_append, identifier_spell, List.flatMap_append, Glyph.spell_plain]

/-- The tags around the name of what a message is about. -/
def tags (m : Message) : List String :=
  if m.identityUrl ≠ "" then ["b", "a href=\"" ++ m.identityUrl ++ "\"", "/a", "/b"]
  else if m.shortIdentityKey = "" then []
  else ["b", "/b"]

theorem glyphs_tags (m : Message) : m.glyphs.filterMap Glyph.tag? = m.tags.map String.toList := by
  unfold glyphs lineGlyphs
  simp only [List.filterMap_append, Glyph.filterMap_plain_tag, List.append_nil, List.nil_append]
  unfold identifierGlyphs tags
  split
  · simp [Glyph.filterMap_plain_tag, Glyph.tag?, linkTag]
  · split
    · rfl
    · simp [Glyph.filterMap_plain_tag, Glyph.tag?]

theorem identifier_characters (m : Message) :
    m.identifierGlyphs.filterMap Glyph.char? = m.shortIdentityKey.toList := by
  unfold identifierGlyphs
  split
  · simp [Glyph.filterMap_plain, List.filterMap_cons, Glyph.char?, linkTag]
  · split
    · rename_i hkey
      rw [hkey]
      rfl
    · simp [Glyph.filterMap_plain, List.filterMap_cons, Glyph.char?]

/-- What a batch is written from, if each paragraph is followed by some tags. -/
def batchGlyphs (breaks : List String) (batch : List Message) : List Glyph :=
  batch.flatMap fun m => m.glyphs ++ breaks.map (.tag ·.toList)

theorem batchGlyphs_tags (breaks : List String) (batch : List Message) :
    (batchGlyphs breaks batch).filterMap Glyph.tag? =
      (batch.flatMap fun m => m.tags ++ breaks).map String.toList := by
  have hbreaks : (breaks.map (Glyph.tag ·.toList)).filterMap Glyph.tag? = breaks.map String.toList := by
    rw [List.filterMap_map, ← List.filterMap_eq_map]
    rfl
  simp only [batchGlyphs, List.filterMap_flatMap, List.map_flatMap, List.filterMap_append, glyphs_tags,
    hbreaks, List.map_append]

/-- The markups that write tags, each with the tags that it puts behind a paragraph. -/
def taggedMarkups : List (Markup × List String) := [(.html, []), (.mail, ["br"])]

theorem render?_spell {form : Markup × List String} (hform : form ∈ taggedMarkups)
    {batch : List Message} (hbatch : batch ≠ []) :
    ∃ rendered, render? form.1 batch = some rendered ∧
      rendered.body.toList = (batchGlyphs form.2 batch).flatMap Glyph.spell := by
  have hparagraph : ∀ m : Message, (m.paragraph form.1 ++ form.1.separator).toList =
      (m.glyphs ++ form.2.map (Glyph.tag ·.toList)).flatMap Glyph.spell := by
    intro m
    simp only [taggedMarkups, List.mem_cons, List.not_mem_nil, or_false] at hform
    rw [String.toList_append, List.flatMap_append, ← paragraph_spell]
    rcases hform with rfl | rfl
    · rfl
    · rfl
  cases batch with
  | nil => exact absurd rfl hbatch
  | cons first others =>
    refine ⟨_, rfl, ?_⟩
    rw [batchGlyphs, String.toList_join, List.flatMap_map, List.flatMap_assoc]
    exact congrArg (first :: others).flatMap (funext hparagraph)

/-- The parts of a message are clear of what stands for something in the place where they are put. -/
structure Clear (m : Message) : Prop where
  category : FreeOf ['<', '>', '\n', ':'] m.category
  link : FreeOf ['<', '>', '\n'] m.identityUrl
  key : FreeOf ['<', '>', '\n', ':', ' '] m.shortIdentityKey
  detail : FreeOf ['<', '>', '\n'] m.detail
  detail_ne : m.detail ≠ ""

theorem icon_free (severity : Severity) : FreeOf ['<', '>', '\n', ':'] severity.icon := by
  cases severity <;> decide

theorem identifierGlyphs_avoid {marks : List Char} {m : Message} (hlink : FreeOf brackets m.identityUrl)
    (hkey : FreeOf marks m.shortIdentityKey) : ∀ g ∈ m.identifierGlyphs, g.Avoids marks := by
  have hmarkup : ∀ text ∈ ["b", "/a", "/b"], FreeOf brackets text := by decide
  have hlinkTag : (linkTag m.identityUrl).Avoids marks := by
    have hopen : FreeOf brackets "a href=\"" := by decide
    have hclose : FreeOf brackets "\"" := by decide
    exact (hopen.append hlink).append hclose
  have hname := Glyph.plain_avoids hkey
  intro g hg
  unfold identifierGlyphs at hg
  split at hg
  · simp only [List.mem_append, List.mem_cons, List.not_mem_nil, or_false] at hg
    rcases hg with ((rfl | rfl) | hg) | rfl | rfl
    · exact hmarkup "b" (by decide)
    · exact hlinkTag
    · exact hname g hg
    · exact hmarkup "/a" (by decide)
    · exact hmarkup "/b" (by decide)
  · split at hg
    · cases hg
    · simp only [List.mem_append, List.mem_cons, List.not_mem_nil, or_false] at hg
      rcases hg with (rfl | hg) | rfl
      · exact hmarkup "b" (by decide)
      · exact hname g hg
      · exact hmarkup "/b" (by decide)

/-- Up to its name, a clear message has no colon. -/
theorem Clear.front_avoids {m : Message} (h : m.Clear) :
    ∀ g ∈ plain m.lead.toList ++ m.identifierGlyphs, g.Avoids ['<', '>', '\n', ':'] := by
  have hspace : FreeOf ['<', '>', '\n', ':'] " " := by decide
  have hlead : FreeOf ['<', '>', '\n', ':'] m.lead :=
    (((icon_free m.severity).append hspace).append h.category).append hspace
  intro g hg
  rcases List.mem_append.mp hg with hg | hg
  · exact Glyph.plain_avoids hlead g hg
  · exact identifierGlyphs_avoid (h.link.weaken (by decide)) (h.key.weaken (by decide)) g hg

theorem Clear.line_avoids {m : Message} (h : m.Clear) :
    ∀ g ∈ m.lineGlyphs, g.Avoids ['<', '>', '\n'] := by
  have htelling : FreeOf ['<', '>', '\n'] m.telling := by
    have hcolon : FreeOf ['<', '>', '\n'] ": " := by decide
    rw [telling, if_neg h.detail_ne]
    exact hcolon.append h.detail
  intro g hg
  rcases List.mem_append.mp hg with hg | hg
  · exact (h.front_avoids g hg).weaken (by decide)
  · exact Glyph.plain_avoids htelling g hg

/-- **The tags in the body of a batch of clear messages are those of the markup**, and outside of them
no bracket stands. -/
theorem read?_render {form : Markup × List String} (hform : form ∈ taggedMarkups)
    {batch : List Message} (hbatch : batch ≠ []) (hclear : ∀ m ∈ batch, m.Clear) :
    ∃ rendered, render? form.1 batch = some rendered ∧
      Glyph.read? rendered.body.toList = some (batchGlyphs form.2 batch) := by
  obtain ⟨rendered, hrendered, hbody⟩ := render?_spell hform hbatch
  refine ⟨rendered, hrendered, Glyph.read?_eq_some_iff.mpr ⟨hbody.symm, ?_⟩⟩
  have hends : FreeOf brackets "\n\n" := by decide
  have hbreaks : ∀ form ∈ taggedMarkups, ∀ text ∈ form.2, FreeOf brackets text := by decide
  intro g hg
  obtain ⟨m, hm, hg⟩ := List.mem_flatMap.mp hg
  simp only [glyphs, List.mem_append] at hg
  rcases hg with (hg | hg) | hg
  · exact ((hclear m hm).line_avoids g hg).weaken (by decide)
  · exact Glyph.plain_avoids hends g hg
  · obtain ⟨text, htext, rfl⟩ := List.mem_map.mp hg
    exact hbreaks form hform text htext

end Message

/-! ### Reading messages back -/

/-- What a paragraph tells. -/
structure Told where
  link : String
  key : String
  detail : String
deriving DecidableEq

namespace Told

open Glyph (plain char?)

def ofMessage (m : Message) : Told := ⟨m.identityUrl, m.shortIdentityKey, m.detail⟩

/-- The link in a tag, if the tag begins a link. -/
def link? : Glyph → Option (List Char)
  | .char _ => none
  | .tag text =>
    let opening := "a href=\"".toList
    if opening.isPrefixOf text then some (text.drop opening.length).dropLast else none

/-- What a line tells, if it is the line of a paragraph.  The detail stands behind the first colon, and
the key behind the last space before that. -/
def ofLine? (line : List Glyph) : Option Told :=
  let front := line.takeWhile (· ≠ .char ':')
  match line.dropWhile (· ≠ .char ':') with
  | [] => none
  | _ :: back => some {
      link := String.ofList ((front.findSome? link?).getD [])
      key := String.ofList ((front.filterMap char?).reverse.takeWhile (· ≠ ' ')).reverse
      detail := String.ofList ((back.drop 1).filterMap char?) }

/-- What the lines of a body tell.  The line under way is held in reverse. -/
def readFrom (line : List Glyph) : List Glyph → List Told
  | [] => []
  | g :: rest =>
    if g = .char '\n' then (ofLine? line.reverse).toList ++ readFrom [] rest
    else readFrom (g :: line) rest

/-- The messages in a body, one by one. -/
def readAll (body : List Glyph) : List Told := readFrom [] body

theorem readFrom_line {gs : List Glyph} (h : ∀ g ∈ gs, g ≠ .char '\n') (line rest : List Glyph) :
    readFrom line (gs ++ rest) = readFrom (gs.reverse ++ line) rest := by
  induction gs generalizing line with
  | nil => rfl
  | cons g gs ih =>
    have hg := h g List.mem_cons_self
    have hgs := ih fun g hg => h g (List.mem_cons_of_mem _ hg)
    simp [readFrom, hg, hgs]

theorem ofLine?_append {front : List Glyph} (h : ∀ g ∈ front, g ≠ .char ':') (back : List Glyph) :
    ofLine? (front ++ .char ':' :: back) = some {
      link := String.ofList ((front.findSome? link?).getD [])
      key := String.ofList ((front.filterMap char?).reverse.takeWhile (· ≠ ' ')).reverse
      detail := String.ofList ((back.drop 1).filterMap char?) } := by
  have hfront : ∀ g ∈ front, decide (g ≠ .char ':') = true := by
    intro g hg
    exact decide_eq_true (h g hg)
  have htake : (front ++ .char ':' :: back).takeWhile (· ≠ .char ':') = front := by
    rw [List.takeWhile_append_of_pos hfront]
    simp
  have hdrop : (front ++ .char ':' :: back).dropWhile (· ≠ .char ':') = .char ':' :: back := by
    rw [List.dropWhile_append_of_pos hfront]
    simp
  simp only [ofLine?, htake, hdrop]

theorem findSome?_plain (text : List Char) : (plain text).findSome? link? = none := by
  rw [List.findSome?_eq_none_iff]
  intro g hg
  obtain ⟨c, -, rfl⟩ := List.mem_map.mp hg
  rfl

theorem link?_linkTag (url : String) : link? (Message.linkTag url) = some url.toList := by
  have hopening : "a href=\"".toList.isPrefixOf ("a href=\"" ++ url ++ "\"").toList = true := by
    rw [List.isPrefixOf_iff_prefix, String.toList_append, String.toList_append, List.append_assoc]
    exact List.prefix_append _ _
  have hurl : (("a href=\"" ++ url ++ "\"").toList.drop "a href=\"".toList.length).dropLast =
      url.toList := by
    rw [String.toList_append, String.toList_append, List.append_assoc, List.drop_left]
    exact List.dropLast_concat
  simp only [Message.linkTag, link?, hopening, hurl, if_true]

theorem findSome?_identifier (m : Message) :
    (m.identifierGlyphs.findSome? link?).getD [] = m.identityUrl.toList := by
  have hbold : link? (.tag "b".toList) = none := by decide
  have hend : link? (.tag "/b".toList) = none := by decide
  unfold Message.identifierGlyphs
  split
  · simp only [List.cons_append, List.nil_append, List.findSome?_cons, hbold, link?_linkTag]
    rfl
  · rename_i hurl
    rw [Decidable.not_not.mp hurl]
    split
    · rfl
    · simp only [List.cons_append, List.nil_append, List.findSome?_cons, List.findSome?_append, hbold,
        findSome?_plain, hend]
      rfl

/-- Tags that are no links tell nothing. -/
def Mute (g : Glyph) : Prop := char? g = none ∧ link? g = none

instance (g : Glyph) : Decidable (Mute g) := inferInstanceAs (Decidable (_ ∧ _))

theorem ofLine?_message {m : Message} (h : m.Clear) {before : List Glyph} (hbefore : ∀ g ∈ before, Mute g) :
    ofLine? (before ++ m.lineGlyphs) = some (ofMessage m) := by
  have hcolon : ∀ g ∈ before ++ (plain m.lead.toList ++ m.identifierGlyphs), g ≠ .char ':' := by
    intro g hg
    rcases List.mem_append.mp hg with hg | hg
    · rintro rfl
      cases (hbefore _ hg).1
    · exact (h.front_avoids g hg).ne (by decide)
  have hline : before ++ m.lineGlyphs = (before ++ (plain m.lead.toList ++ m.identifierGlyphs)) ++
      .char ':' :: .char ' ' :: plain m.detail.toList := by
    simp [Message.lineGlyphs, Message.telling, h.detail_ne, plain]
  have hchars : (before ++ (plain m.lead.toList ++ m.identifierGlyphs)).filterMap char? =
      m.lead.toList ++ m.shortIdentityKey.toList := by
    have hmute : before.filterMap char? = [] :=
      List.filterMap_eq_nil_iff.mpr fun g hg => (hbefore g hg).1
    simp only [List.filterMap_append, hmute, Glyph.filterMap_plain, Message.identifier_characters,
      List.nil_append]
  have hlinks : (before ++ (plain m.lead.toList ++ m.identifierGlyphs)).findSome? link? =
      m.identifierGlyphs.findSome? link? := by
    have hmute : before.findSome? link? = none :=
      List.findSome?_eq_none_iff.mpr fun g hg => (hbefore g hg).2
    simp only [List.findSome?_append, hmute, findSome?_plain, Option.none_or]
  -- backwards from the colon, the key goes as far as the space in front of it
  have hkey : (m.lead.toList ++ m.shortIdentityKey.toList).reverse.takeWhile (· ≠ ' ') =
      m.shortIdentityKey.toList.reverse := by
    have hname : ∀ c ∈ m.shortIdentityKey.toList.reverse, decide (c ≠ ' ') = true := by
      rintro c hc
      refine decide_eq_true ?_
      rintro rfl
      exact h.key ' ' (List.mem_reverse.mp hc) (by decide)
    have hlead : ∃ rest, m.lead.toList.reverse = ' ' :: rest :=
      ⟨(m.severity.icon ++ " " ++ m.category).toList.reverse, by simp [Message.lead]⟩
    obtain ⟨rest, hrest⟩ := hlead
    rw [List.reverse_append, List.takeWhile_append_of_pos hname, hrest]
    simp
  rw [hline, ofLine?_append hcolon, hchars, hlinks, hkey, findSome?_identifier, List.reverse_reverse]
  simp [ofMessage, Glyph.filterMap_plain]

theorem ofLine?_nil : ofLine? [] = none := rfl

/-- **The messages of a batch are read one by one from what it is written from.**  The break of one
paragraph is read as the beginning of the next line. -/
theorem readFrom_batch {breaks : List String} (hbreaks : ∀ text ∈ breaks, Mute (.tag text.toList))
    {batch : List Message} (hclear : ∀ m ∈ batch, m.Clear) {before : List Glyph}
    (hbefore : ∀ g ∈ before, Mute g) :
    readFrom before.reverse (Message.batchGlyphs breaks batch) = batch.map ofMessage := by
  have hmute : ∀ g ∈ breaks.map (Glyph.tag ·.toList), Mute g := by
    intro g hg
    obtain ⟨text, htext, rfl⟩ := List.mem_map.mp hg
    exact hbreaks text htext
  have hquiet : ∀ g ∈ breaks.map (Glyph.tag ·.toList), g ≠ .char '\n' := by
    rintro g hg rfl
    cases (hmute _ hg).1
  induction batch generalizing before with
  | nil => rfl
  | cons m batch ih =>
    have hm := hclear m List.mem_cons_self
    have hrest := ih (fun m hm => hclear m (List.mem_cons_of_mem _ hm)) hmute
    have hline : ∀ g ∈ m.lineGlyphs, g ≠ .char '\n' := by
      intro g hg
      exact (hm.line_avoids g hg).ne (by decide)
    have hbatch : Message.batchGlyphs breaks (m :: batch) = m.lineGlyphs ++ (.char '\n' :: .char '\n' ::
        (breaks.map (Glyph.tag ·.toList) ++ Message.batchGlyphs breaks batch)) := by
      simp [Message.batchGlyphs, Message.glyphs, plain]
    rw [hbatch, readFrom_line hline]
    -- the first line end closes the paragraph, and the line before the second is empty
    simp only [readFrom, if_true, List.reverse_append, List.reverse_reverse, List.reverse_nil,
      ofLine?_message hm hbefore, ofLine?_nil]
    rw [readFrom_line hquiet, List.append_nil, hrest]
    rfl

theorem readAll_batch {form : Markup × List String} (hform : form ∈ Message.taggedMarkups)
    {batch : List Message} (hclear : ∀ m ∈ batch, m.Clear) :
    readAll (Message.batchGlyphs form.2 batch) = batch.map ofMessage := by
  have hbreaks : ∀ form ∈ Message.taggedMarkups, ∀ text ∈ form.2, Mute (.tag text.toList) := by decide
  have hnone : ∀ g ∈ ([] : List Glyph), Mute g := by
    intro g hg
    cases hg
  exact readFrom_batch (hbreaks form hform) hclear hnone

end Told

end ValidatorAlarm
