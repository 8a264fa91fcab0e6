import ValidatorAlarm.Proofs.Url.Domain.Ideographs
import ValidatorAlarm.Proofs.Url.Rereading

/-!
# Links to the pages of an explorer

The link to the page of a key differs from the address of the explorer in its path only, and there by two
segments at the end: one that is the same for all keys, and one from which the key can be read.
-/
namespace ValidatorAlarm

namespace Url

variable {u : Url} {segment : List Char} {parts : List (List Char)}

namespace Path

theorem withoutOpenEnd_subset (parts : List (List Char)) : withoutOpenEnd parts ⊆ parts := by
  unfold withoutOpenEnd
  split
  · exact (List.dropLast_sublist parts).subset
  · exact List.Subset.refl parts

end Path

theorem push_web (hweb : kindOf u.scheme = .web) (path : Path) (hshown : shown segment = segment)
    (hhere : segment ≠ ['.']) (hup : segment ≠ ['.', '.']) :
    ({ u with path := path } : Url).push segment = { u with path := path.push (encode keyReserved segment) } := by
  unfold push segmentReservedIn
  rw [if_neg (by simp [hhere, hup])]
  simp only [hweb, hshown, if_neg (show ¬ SchemeKind.web = SchemeKind.other by decide),
    if_neg (show ¬ SchemeKind.web = SchemeKind.file by decide)]

/-- The segments of the page of a key, below those of the explorer. -/
def pageParts (parts : List (List Char)) (key : List Char) : List (List Char) :=
  Path.withoutOpenEnd parts ++ [Explorer.pages.toList, encode keyReserved key]

variable {key : List Char}

theorem pageParts_ne_nil (parts : List (List Char)) (key : List Char) : pageParts parts key ≠ [] := by
  simp [pageParts]

theorem encode_pages : encode keyReserved Explorer.pages.toList = Explorer.pages.toList := by decide

theorem stays_pageParts (hparts : ∀ part ∈ parts, Path.Stays part) (hhere : key ≠ ['.']) (hup : key ≠ ['.', '.']) :
    ∀ part ∈ pageParts parts key, Path.Stays part := by
  have hpage : Path.Stays Explorer.pages.toList := encode_pages ▸ stays_encode (by decide) (by decide)
  refine List.forall_mem_append.mpr ⟨fun part hpart => hparts part (Path.withoutOpenEnd_subset parts hpart), ?_⟩
  exact List.forall_mem_cons.mpr ⟨hpage, List.forall_mem_singleton.mpr (stays_encode hhere hup)⟩

/-- **The link to a page has two segments more than the explorer**, and nothing else changes. -/
theorem descend_web (hweb : kindOf u.scheme = .web) (hpath : u.path = Path.ofParts parts) (hne : parts ≠ [])
    (htwo : parts ≠ [[], []]) (hparts : ∀ part ∈ parts, Path.Stays part) (hshown : shown key = key)
    (hhere : key ≠ ['.']) (hup : key ≠ ['.', '.']) :
    u.descend [Explorer.pages.toList, key] = { u with path := Path.ofParts (pageParts parts key) } := by
  have hpage : Path.Stays Explorer.pages.toList := encode_pages ▸ stays_encode (by decide) (by decide)
  have hopen : Path.withoutOpenEnd parts ++ [Explorer.pages.toList] ≠ [[]] := fun hone => by
    have hlast := congrArg List.getLast? hone
    rw [List.getLast?_concat] at hlast
    exact absurd hlast (by decide)
  rw [descend, List.foldl_cons, List.foldl_cons, List.foldl_nil,
    push_web hweb _ (by decide) (by decide) (by decide), push_web hweb _ hshown hhere hup, encode_pages, hpath,
    Path.push_closeEnd hne htwo hparts hpage, Path.push_ofParts hopen (stays_encode hhere hup), List.append_assoc,
    List.singleton_append, pageParts]

/-! ### Pages below the explorer -/

/-- A link is the link to the page of a key below an explorer: all is the explorer's, and to the segments of
its path, one empty segment at their end left out, there come two, of which the last one stands for the
bytes of the key. -/
structure IsPageBelow (explorer : Url) (key : String) (link : Url) : Prop where
  scheme : link.scheme = explorer.scheme
  /-- User, password, host and port. -/
  authority : link.authority = explorer.authority
  query : link.query = explorer.query
  fragment : link.fragment = explorer.fragment
  segments : ∃ last, link.path.segments =
    Path.withoutOpenEnd explorer.path.segments ++ [Explorer.pages.toList, last] ∧ decode last = Text.utf8 key

/-- A key that can be a segment of a path: not one or two dots, and no character in it that would not
count. -/
structure IsPageKey (key : String) : Prop where
  noDot : key ≠ "."
  noDots : key ≠ ".."
  counts : ∀ c ∈ key.toList, isIgnored c = false

instance (key : String) : Decidable (IsPageKey key) :=
  decidable_of_iff (key ≠ "." ∧ key ≠ ".." ∧ ∀ c ∈ key.toList, isIgnored c = false)
    ⟨fun h => ⟨h.1, h.2.1, h.2.2⟩, fun h => ⟨h.noDot, h.noDots, h.counts⟩⟩

/-! ### Hosts of ideographs -/

section Ideographs

open Domain (AreIdeographs asciiMark isIdeograph maxShown)

variable {label : List Char}

/-- The host that a label of ideographs stands for. -/
theorem web?_ideographs (h : AreIdeographs label) (hne : label ≠ []) (hlength : label.length ≤ maxShown) :
    Host.web? label = some (.name (asciiMark ++ Punycode.encode label)) := by
  have hbracket : '[' ∉ label := fun hmem => absurd (h _ hmem) (by decide)
  have hpercent : '%' ∉ label := fun hmem => absurd (h _ hmem) (by decide)
  have hstop : '.' ∉ asciiMark ++ Punycode.encode label := fun hmem =>
    (List.mem_append.mp hmem).elim (by decide) (Domain.notMem_encode fun hmem => absurd (h _ hmem) (by decide))
  have hnumber : endsInNumber (asciiMark ++ Punycode.encode label) = false := by
    rw [endsInNumber, v4Parts, Text.Form.splitAt_of_notMem hstop]
    rfl
  rw [Host.web?_of_name hbracket, decode_of_notMem hpercent, Domain.ofBytes?_text,
    Domain.ofName?_ideographs h hne hlength, Option.bind_some, hnumber]
  rfl

/-- The authority of which nothing but a label of ideographs is typed. -/
theorem authority_ideographs (h : AreIdeographs label) (hne : label ≠ []) (hlength : label.length ≤ maxShown) :
    Authority.parse? "http".toList label false =
      some (.ofHost (.name (asciiMark ++ Punycode.encode label)), []) := by
  have huser : '@' ∉ label := fun hmem => absurd (h _ hmem) (by decide)
  have hchars : ∀ c ∈ label, (false = true ∨ c ≠ ':') ∧ c ≠ '[' ∧ c ≠ ']' := fun c hc => by
    refine ⟨.inr ?_, ?_, ?_⟩ <;> (rintro rfl; exact absurd (h _ hc) (by decide))
  have hport : Authority.splitPort false label = (label, []) := by
    have hsplit : Authority.splitPort false (label ++ []) = _ := Authority.splitPort_append hchars
    rw [List.append_nil, Authority.splitPort, List.append_nil] at hsplit
    exact hsplit
  have hempty : label.isEmpty = false := List.isEmpty_eq_false_iff.mpr hne
  unfold Authority.parse?
  simp only [Authority.splitUser?_none huser, Option.getD_none, hport, hempty, Bool.and_false, Bool.false_and,
    Bool.false_eq_true, if_false]
  rw [show Host.parse? (kindOf "http".toList) label = Host.web? label from rfl, web?_ideographs h hne hlength]
  rfl

theorem parse?_ideographs (h : AreIdeographs label) (hne : label ≠ []) (hlength : label.length ≤ maxShown) :
    parse? (String.ofList ("http://".toList ++ label)) = some {
      scheme := "http".toList
      authority := some (.ofHost (.name (asciiMark ++ Punycode.encode label)))
      isSetApart := false
      path := ['/']
      query := none
      fragment := none } := by
  have hother : ∀ c ∈ label, ∀ sign : Char, isIdeograph sign.toNat = false → c ≠ sign := by
    rintro c hc sign hsign rfl
    rw [h c hc] at hsign
    cases hsign
  have hslash : ∀ c ∈ label, isSlash c = false := fun c hc =>
    isSlash_eq_false.mpr ⟨hother c hc _ (by decide), hother c hc _ (by decide)⟩
  have hblank : ∀ c ∈ "http://".toList ++ label, decide (c ≤ ' ') = false := by
    refine List.forall_mem_append.mpr ⟨by decide, fun c hc => decide_eq_false fun hle => ?_⟩
    exact absurd (Nat.le_trans (Domain.isIdeograph_range.mp (h c hc)).1 hle) (by decide)
  have hshown : shown ('/' :: '/' :: label) = '/' :: '/' :: label := by
    refine List.filter_eq_self.mpr (List.forall_mem_cons.mpr ⟨rfl, List.forall_mem_cons.mpr ⟨rfl, fun c hc => ?_⟩⟩)
    simp [isIgnored, hother c hc _ (show isIdeograph '\t'.toNat = false by decide),
      hother c hc _ (show isIdeograph '\n'.toNat = false by decide),
      hother c hc _ (show isIdeograph '\r'.toNat = false by decide)]
  have hcut : ∀ sign ∈ ['#', '?'], cut sign ('/' :: '/' :: label) = ('/' :: '/' :: label, none) := fun sign hsign => by
    have hsigns : ∀ sign ∈ ['#', '?'], sign ≠ '/' ∧ isIdeograph sign.toNat = false := by decide
    obtain ⟨hslash, hideograph⟩ := hsigns sign hsign
    refine cut_none ?_
    simp only [List.mem_cons, hslash, false_or]
    exact fun hmem => hother sign hmem sign hideograph rfl
  have hbody : ('/' :: '/' :: label).dropWhile isSlash = label := by
    have hstart : ('/' :: '/' :: label).dropWhile isSlash = label.dropWhile isSlash := rfl
    rw [hstart, dropWhile_none hslash]
  obtain ⟨htake, hdrop⟩ := Text.Form.span_all (p := fun c => !isSlash c) fun c hc => by rw [hslash c hc]; rfl
  unfold parse?
  rw [String.toList_ofList, trim_of_noBlank hblank,
    show "http://".toList ++ label = "http".toList ++ ':' :: '/' :: '/' :: label from rfl,
    splitScheme?_web (show kindOf "http".toList = .web by decide)]
  simp only [Option.bind_eq_bind, Option.bind_some, hcut '#' (by decide), hcut '?' (by decide), body?,
    show kindOf "http".toList = .web by decide, webBody?, hshown, hbody, htake, hdrop,
    authority_ideographs h hne hlength]
  rfl

end Ideographs

end Url

namespace Explorer

open Url

variable {explorer key : String} {url : Url}

/-- The explorer's link with the path of a page. -/
def pageUrl (url : Url) (key : String) : Url :=
  { url with path := Path.ofParts (pageParts url.path.segments key.toList) }

/-- The link to the page of a key, part by part. -/
theorem keyLink_eq (hurl : Url.parse? explorer = some url) (hweb : kindOf url.scheme = .web)
    (hpath : url.path ≠ ['/', '/']) (hkey : IsPageKey key) :
    keyLink explorer key = (pageUrl url key).text ∧ (pageUrl url key).OnWeb ∧
      (pageUrl url key).path.segments = pageParts url.path.segments key.toList := by
  have honWeb := onWeb_of_parse? hurl hweb
  obtain ⟨parts, hne, hparts, hofParts⟩ := honWeb.path
  have hsegments : url.path.segments = parts := by
    rw [hofParts, Path.segments_ofParts hne fun part hpart => (hparts part hpart).notMem]
  have htwo : parts ≠ [[], []] := by
    rintro rfl
    exact hpath hofParts
  have hhere : key.toList ≠ ['.'] := fun heq => hkey.noDot (String.toList_inj.mp heq)
  have hup : key.toList ≠ ['.', '.'] := fun heq => hkey.noDots (String.toList_inj.mp heq)
  have hshown : shown key.toList = key.toList :=
    List.filter_eq_self.mpr fun c hc => by rw [hkey.counts c hc]; rfl
  have hstays := stays_pageParts hparts hhere hup
  have hdescend := descend_web hweb hofParts hne htwo hparts hshown hhere hup
  rw [pageUrl, hsegments, ← hdescend]
  refine ⟨by rw [keyLink, hurl], ?_, ?_⟩
  · have hvisible := honWeb.visible.descend [pages.toList, key.toList]
    rw [hdescend] at hvisible ⊢
    exact ⟨hweb, honWeb.authority, honWeb.notSetApart, ⟨_, pageParts_ne_nil _ _, hstays, rfl⟩, honWeb.query,
      honWeb.fragment, hvisible⟩
  · rw [hdescend]
    exact Path.segments_ofParts (pageParts_ne_nil _ _) fun part hpart => (hstays part hpart).notMem

/-- **The link to the page of a key is read as a link below the explorer**, if the host of the explorer can be
read again, and not at all otherwise. -/
theorem parse?_keyLink (hurl : Url.parse? explorer = some url) (hweb : kindOf url.scheme = .web)
    (hpath : url.path ≠ ['/', '/']) (hkey : IsPageKey key) :
    (url.IsReadable → ∃ link, Url.parse? (keyLink explorer key) = some link ∧ IsPageBelow url key link) ∧
      (¬ url.IsReadable → Url.parse? (keyLink explorer key) = none) := by
  obtain ⟨hlink, honWeb, hsegments⟩ := keyLink_eq hurl hweb hpath hkey
  have hread := parse?_text honWeb
  rw [← hlink] at hread
  refine ⟨fun hreadable => ⟨_, hread.trans (if_pos hreadable), rfl, rfl, rfl, rfl, _, hsegments, ?_⟩,
    fun hunreadable => hread.trans (if_neg hunreadable)⟩
  exact decode_encode (by decide) key.toList

/-- Different keys have different links. -/
theorem keyLink_injective {key' : String} (hurl : Url.parse? explorer = some url) (hweb : kindOf url.scheme = .web)
    (hpath : url.path ≠ ['/', '/']) (hkey : IsPageKey key) (hkey' : IsPageKey key')
    (h : keyLink explorer key = keyLink explorer key') : key = key' := by
  obtain ⟨hlink, -, hsegments⟩ := keyLink_eq hurl hweb hpath hkey
  obtain ⟨hlink', -, hsegments'⟩ := keyLink_eq hurl hweb hpath hkey'
  have htext := congrArg String.toList ((hlink.symm.trans h).trans hlink')
  simp only [Url.text, String.toList_ofList] at htext
  have hpaths : (pageUrl url key).path = (pageUrl url key').path :=
    List.append_cancel_left (List.append_cancel_right (List.append_cancel_right htext))
  have hparts : pageParts url.path.segments key.toList = pageParts url.path.segments key'.toList :=
    hsegments.symm.trans ((congrArg Path.segments hpaths).trans hsegments')
  have hlast : [pages.toList, encode keyReserved key.toList] = [pages.toList, encode keyReserved key'.toList] :=
    List.append_cancel_left hparts
  simp only [List.cons.injEq, true_and, and_true] at hlast
  exact String.toList_inj.mp (eq_of_decode_encode keyReserved (by decide) (congrArg decode hlast))

/-- There is no link if the address of the explorer is none. -/
theorem keyLink_of_none (hurl : Url.parse? explorer = none) (key : String) : keyLink explorer key = "" := by
  rw [keyLink, hurl]

end Explorer

end ValidatorAlarm
