import ValidatorAlarm.Proofs.Json.Accuracy
import ValidatorAlarm.Proofs.Monitor.Looking
import ValidatorAlarm.Proofs.Network.Replies

/-!
# The ratings as they are told

A response tells of ratings in a record of records: each key has a record with two numbers, and either
of them may be missing.  Nothing else in the response matters: not its white space, not the order of its
fields, not the escapes in its texts, and none of the fields that nobody asks for.  So the snapshot holds
for each key what its last record says, and no other keys.

A response that tells of no ratings at all is a fault, which is something else than a response that
tells of the ratings of no key.
-/
namespace ValidatorAlarm

/-! ### Tables -/

namespace Table

variable {α : Type}

/-- The value of the last pair with a key. -/
def lastOf (key : String) (pairs : List (String × α)) : Option α :=
  (pairs.filter (·.1 = key)).getLast?.map (·.2)

theorem ofList_append (pairs : List (String × α)) (pair : String × α) :
    ofList (pairs ++ [pair]) = (ofList pairs).put pair.1 pair.2 := List.foldl_append ..

/-- Of equal keys the last counts. -/
theorem get?_ofList (pairs : List (String × α)) (key : String) :
    (ofList pairs).get? key = lastOf key pairs := by
  induction pairs using List.reverseRecOn with
  | nil => rfl
  | append_singleton pairs pair ih =>
    rw [ofList_append, get?_put, ih, lastOf, lastOf, List.filter_append]
    by_cases hkey : key = pair.1
    · simp [hkey]
    · have hother : ¬ pair.1 = key := fun h => hkey h.symm
      simp [hkey, hother]

theorem keys_putEntry (key : String) (value : α) (entries : List (String × α)) :
    (putEntry key value entries).map (·.1) =
      if key ∈ entries.map (·.1) then entries.map (·.1) else entries.map (·.1) ++ [key] := by
  induction entries with
  | nil => rfl
  | cons entry entries ih =>
    obtain ⟨k, v⟩ := entry
    rw [putEntry]
    by_cases hk : key = k
    · simp [hk]
    · rw [if_neg hk, List.map_cons, ih]
      by_cases hmem : key ∈ entries.map (·.1) <;> simp_all

/-- No key has two entries. -/
theorem nodup_ofList (pairs : List (String × α)) : ((ofList pairs).entries.map (·.1)).Nodup := by
  induction pairs using List.reverseRecOn with
  | nil => exact .nil
  | append_singleton pairs pair ih =>
    rw [ofList_append, put, keys_putEntry]
    split
    · exact ih
    · rename_i hnew
      exact ih.append (List.nodup_singleton _) (List.disjoint_singleton.mpr hnew)

end Table

namespace Network

/-! ### What a response tells -/

/-- A rating that stands in a record, or is missing there. -/
inductive RatingField : Option Json → Single → Prop where
  | missing : RatingField none .zero
  | number {n : Json.Literal} {x : Single} (h : n.single? = some x) : RatingField (some (.number n)) x

/-- A record that tells of a rating.  It may have other fields as well. -/
def RecordOf (v : Json) (rating : Rating) : Prop :=
  ∃ named temporary settled, v.IsObject named ∧
    Json.valuesOf "tempRating" named = temporary.toList ∧ RatingField temporary rating.temporary ∧
    Json.valuesOf "rating" named = settled.toList ∧ RatingField settled rating.settled

/-- A record of records that tells of these ratings, in this order. -/
def RecordsOf (v : Json) (entries : List (String × Rating)) : Prop :=
  ∃ named, v.IsObject named ∧
    List.Forall₂ (fun field entry => field.1 = entry.1 ∧ RecordOf field.2 entry.2) named entries

/-- Where the ratings stand in a response. -/
def ratingsPath : List String := ["data", "statistics"]

/-- The body of a response tells of these ratings. -/
def TellsRatings (body : List UInt8) (entries : List (String × Rating)) : Prop :=
  ∃ root records, Json.WrittenIn root body ∧ Json.Under ratingsPath root (some records) ∧
    RecordsOf records entries

/-- The body of a response tells of no ratings: on the way to their place something is missing or
`null`. -/
def TellsNothing (body : List UInt8) : Prop :=
  ∃ root path value, Json.WrittenIn root body ∧ path <+: ratingsPath ∧ Json.Under path root value ∧
    (value = none ∨ value = some .null)

/-! ### Reading -/

theorem RatingField.read {value : Option Json} {x : Single} (h : RatingField value x) :
    Json.field? Json.single? .zero value = some x := by
  cases h with
  | missing => rfl
  | number h => exact h

theorem rating?_of {v : Json} {rating : Rating} (h : RecordOf v rating) : rating? v = some rating := by
  obtain ⟨named, temporary, settled, hv, htemporary, hfirst, hsettled, hsecond⟩ := h
  have hhead : ∀ value : Option Json, value.toList.head? = value := by
    intro value
    cases value <;> rfl
  have hlength : ∀ value : Option Json, value.toList.length ≤ 1 := by
    intro value
    cases value <;> simp
  have hrecord : Json.record? ["tempRating", "rating"] v = _ := hv.record? (by decide) (by
    intro name hname
    simp only [List.mem_cons, List.not_mem_nil, or_false] at hname
    rcases hname with rfl | rfl
    · rw [htemporary]
      exact hlength temporary
    · rw [hsettled]
      exact hlength settled)
  simp only [List.map_cons, List.map_nil, htemporary, hsettled, hhead] at hrecord
  simp [rating?, hrecord, hfirst.read, hsecond.read]

theorem snapshot?_of {v : Json} {entries : List (String × Rating)} (h : RecordsOf v entries) :
    snapshot? v = some (Table.ofList entries) := by
  obtain ⟨named, ⟨fields, rfl, hfields⟩, hentries⟩ := h
  rw [snapshot?]
  suffices fields.mapM named? = some entries by rw [this, Option.map_some]
  induction hfields generalizing entries with
  | nil =>
    cases hentries
    rfl
  | cons hfield _ ih =>
    cases hentries with
    | cons hentry hrest =>
      obtain ⟨hspells, hvalue⟩ := hfield
      obtain ⟨hkey, hrecord⟩ := hentry
      rw [List.mapM_cons, ih hrest]
      simp [named?, hspells.read?, hkey, hvalue, rating?_of hrecord]

/-- Nothing or `null` stands where it is looked for. -/
theorem onlyField?_nothing {α : Type} {name : String} {v : Json} {value : Option Json}
    (h : Json.Under [name] v value) (hvalue : value = none ∨ value = some .null)
    (read : Json → Option α) : onlyField? name read v = some none := by
  cases h with
  | last hv hnamed =>
    rw [onlyField?, hv.single hnamed]
    rcases hvalue with rfl | rfl <;> rfl
  | step hv hinner h => cases h

theorem onlyField?_object {α : Type} {name : String} {v : Json} {fields : List (Json.Raw × Json)}
    (h : Json.Under [name] v (some (.object fields))) (read : Json → Option α) :
    onlyField? name read v = (read (.object fields)).map some := by
  cases h with
  | last hv hnamed =>
    rw [onlyField?, hv.single hnamed]
    rfl
  | step hv hinner h => cases h

/-- A path that goes on leads through an object. -/
theorem under_cons {name next : String} {path : List String} {v : Json} {value : Option Json}
    (h : Json.Under (name :: next :: path) v value) :
    ∃ fields, Json.Under [name] v (some (.object fields)) ∧
      Json.Under (next :: path) (.object fields) value := by
  cases h with
  | step hv hinner h =>
    obtain ⟨fields, rfl⟩ := h.isObject
    exact ⟨fields, .last hv hinner, h⟩

theorem readRatings_told {body : List UInt8} {entries : List (String × Rating)}
    (h : TellsRatings body entries) : readRatings body = .ok (Table.ofList entries) := by
  obtain ⟨root, records, hbody, hplace, hentries⟩ := h
  obtain ⟨fields, hdata, hstatistics⟩ := under_cons hplace
  obtain ⟨inner, rfl⟩ : ∃ inner, records = .object inner := by
    obtain ⟨named, ⟨inner, rfl, -⟩, -⟩ := hentries
    exact ⟨inner, rfl⟩
  rw [readRatings, Json.ofBytes?_written hbody, Option.bind_some, onlyField?_object hdata,
    onlyField?_object hstatistics, snapshot?_of hentries]
  rfl

theorem readRatings_nothing {body : List UInt8} (h : TellsNothing body) :
    readRatings body = .error .noRatings := by
  obtain ⟨root, path, value, hbody, hpath, hplace, hvalue⟩ := h
  rw [readRatings, Json.ofBytes?_written hbody, Option.bind_some]
  simp only [ratingsPath, List.prefix_cons_iff, List.prefix_nil] at hpath
  rcases hpath with rfl | ⟨_, rfl, rfl | ⟨_, rfl, rfl⟩⟩
  · cases hplace
  · rw [onlyField?_nothing hplace hvalue]
  · obtain ⟨fields, hdata, hstatistics⟩ := under_cons hplace
    rw [onlyField?_object hdata, onlyField?_nothing hstatistics hvalue]
    rfl

/-! ### A response for all ratings -/

/-- A whole number as a number of JSON. -/
def wordLiteral (n : Nat) : Json.Literal := ⟨false, Nat.toDigits 10 n, [], none⟩

/-- A record with two whole numbers. -/
def writeRecord (ratings : Nat × Nat) : List Char :=
  '\x7b' :: (List.intercalate [','] ([("tempRating", ratings.1), ("rating", ratings.2)].map fun field =>
    Json.quote field.1 ++ ':' :: Nat.toDigits 10 field.2) ++ ['\x7d'])

def recordValue (ratings : Nat × Nat) : Json :=
  .object ([("tempRating", ratings.1), ("rating", ratings.2)].map fun field =>
    (Json.rawOf field.1, .number (wordLiteral field.2)))

theorem writeRecord_laysOut (ratings : Nat × Nat) :
    Json.LaysOut (recordValue ratings).tokens (writeRecord ratings) := by
  refine Json.LaysOut.object Prod.fst (fun field : String × Nat => ?_) _
  rw [Json.tokens]
  exact Json.LaysOut.number field.2

/-- The body of a response that tells of whole numbers as ratings. -/
def bodyWith (entries : List (String × Nat × Nat)) : List UInt8 :=
  Text.utf8 (String.ofList (writeField "data" (writeField "statistics"
    ('\x7b' :: (List.intercalate [','] (entries.map fun entry =>
      Json.quote entry.1 ++ ':' :: writeRecord entry.2) ++ ['\x7d'])))))

theorem single?_wordLiteral {n : Nat} (h : n ≤ Json.Literal.maxWord) :
    (wordLiteral n).single? = some (.ofNat .single false n) := by
  have hdigits : (wordLiteral n).digits = n := Json.Literal.digits_toDigits n
  have hword : (wordLiteral n).IsWord := ⟨rfl, hdigits.symm ▸ h⟩
  rw [Json.Literal.single?_of_isWord hword, hdigits]
  rfl

/-- Whatever words the ratings are, some response tells of them. -/
theorem bodyWith_tells {entries : List (String × Nat × Nat)}
    (h : ∀ entry ∈ entries, entry.2.1 ≤ Json.Literal.maxWord ∧ entry.2.2 ≤ Json.Literal.maxWord) :
    TellsRatings (bodyWith entries) (entries.map fun entry =>
      (entry.1, ⟨.ofNat .single false entry.2.1, .ofNat .single false entry.2.2⟩)) := by
  have hrecords := Json.LaysOut.object Prod.fst (fun entry : String × Nat × Nat =>
    writeRecord_laysOut entry.2) entries
  have hbody := writeField_laysOut "data" (writeField_laysOut "statistics" hrecords)
  refine ⟨_, _, ⟨_, hbody.written, rfl⟩, under_fields (under_field "statistics" _),
    entries.map fun entry => (entry.1, recordValue entry.2), ⟨_, rfl, ?_⟩, ?_⟩
  · rw [List.forall₂_map_left_iff, List.forall₂_map_right_iff]
    exact List.forall₂_same.mpr fun entry _ => ⟨Json.spells_rawOf entry.1, rfl⟩
  · rw [List.forall₂_map_left_iff, List.forall₂_map_right_iff]
    refine List.forall₂_same.mpr fun entry hentry => ⟨rfl, ?_⟩
    obtain ⟨htemporary, hsettled⟩ := h entry hentry
    refine ⟨[("tempRating", .number (wordLiteral entry.2.1)), ("rating", .number (wordLiteral entry.2.2))],
      some _, some _, ⟨_, rfl, ?_⟩, ?_, .number (single?_wordLiteral htemporary), ?_,
      .number (single?_wordLiteral hsettled)⟩
    · exact .cons ⟨Json.spells_rawOf _, rfl⟩ (.cons ⟨Json.spells_rawOf _, rfl⟩ .nil)
    · simp [Json.valuesOf]
    · simp [Json.valuesOf]

/-! ### The query -/

/-- What a query with a good response returns is read from its body. -/
theorem perform_ratings {token : Token} {due : Option Nat} {a : Agenda Site} (ha : a.Awaits token due)
    (hdue : ∀ c, due = some c → a.now + min a.state.statistics.next.2.latency longestWait ≤ c)
    {status : Nat} {body : List UInt8} (hresult : a.state.statistics.next.2.result = .ok ⟨status, body⟩)
    (hlow : 200 ≤ status) (hhigh : status < 300) :
    ∃ b, a.perform (ratings token) = (b, some (readRatings body)) := by
  have hcourse : (ratings token).course a.now a.state =
      (a.now + min a.state.statistics.next.2.latency longestWait,
        (Site.statisticsReply (a.state.note (.get ratingsEndpoint) (.calm a.now))).1,
        some ((a.state.statistics.next.2.result.bind Response.successful).bind fun response =>
          readRatings response.body)) :=
    Task.course_bind (Work.exchange_course a.now a.state)
  have hread : (a.state.statistics.next.2.result.bind Response.successful).bind (fun response =>
      readRatings response.body) = readRatings body := by
    rw [hresult]
    simp only [Except.bind, Response.successful_eq, if_pos (And.intro hlow hhigh)]
  obtain ⟨b, hperform, -⟩ := Agenda.perform_course (ratings_heeds token) ha (by rwa [hcourse])
  rw [hcourse, hread] at hperform
  exact ⟨b, hperform⟩

/-- **The ratings are read as they are told.**  If the response is good, the snapshot holds for each key
what its last record tells, and no other keys; and if nothing or `null` stands where the ratings should,
this is a fault.  All numbers within the bound are taken, and all but very small ones nearly as they
are. -/
theorem ratings_decoded :
    (∀ (n : Json.Literal) (cs : List Char), Json.Numeral n cs → n.Taken) ∧
    ∀ (token : Token) (due : Option Nat) (a : Agenda Site) (status : Nat) (body : List UInt8),
      a.Awaits token due →
      (∀ c, due = some c → a.now + min a.state.statistics.next.2.latency longestWait ≤ c) →
      a.state.statistics.next.2.result = .ok ⟨status, body⟩ → 200 ≤ status → status < 300 →
      (∀ entries, TellsRatings body entries → ∃ b snapshot,
        a.perform (ratings token) = (b, some (.ok snapshot)) ∧
        (snapshot.entries.map (·.1)).Nodup ∧ ∀ key, snapshot.get? key = Table.lastOf key entries) ∧
      (TellsNothing body → ∃ b, a.perform (ratings token) = (b, some (.error .noRatings))) := by
  constructor
  · exact fun n cs hn => Json.Literal.taken_of_numeral hn
  · intro token due a status body ha hdue hresult hlow hhigh
    obtain ⟨b, hperform⟩ := perform_ratings ha hdue hresult hlow hhigh
    constructor
    · intro entries htells
      rw [readRatings_told htells] at hperform
      exact ⟨b, _, hperform, Table.nodup_ofList entries, Table.get?_ofList entries⟩
    · intro hnothing
      rw [readRatings_nothing hnothing] at hperform
      exact ⟨b, hperform⟩

/-- A site whose only response tells of some ratings. -/
def telling (body : List UInt8) : Site :=
  { Site.initial with statistics := .always ⟨0, .ok ⟨200, body⟩⟩ }

/-- Of two records with one key the second counts; no other key is there.  A number with a point is
rounded twice, a word once, and 10³⁰ becomes a 64-bit number that is near to it. -/
theorem ratings_of_two_keys :
    (∃ b snapshot, (Agenda.start (telling (bodyWith [("k", 97, 99), ("l", 100, 100), ("k", 5, 50)]))).perform
        (ratings 0) = (b, some (.ok snapshot)) ∧
      snapshot.get? "k" = some ⟨.ofNat .single false 5, .ofNat .single false 50⟩ ∧
      snapshot.get? "m" = none) ∧
    (⟨false, ['9', '0'], ['5'], none⟩ : Json.Literal).single? =
      some ((Json.Literal.nearest ⟨false, ['9', '0'], ['5'], none⟩).narrow .single) ∧
    (wordLiteral 9007199791611905).single? = some ⟨false, 1509949441⟩ ∧
    ∃ d : Double, |d.toRat - 10 ^ 30| ≤ 10 ^ 30 / 2 ^ 50 ∧
      Json.Literal.single? ⟨false, ['1'], [], some 30⟩ = some (d.narrow .single) := by
  obtain ⟨hnumbers, hquery⟩ := ratings_decoded
  have hwords : ∀ entry ∈ [("k", 97, 99), ("l", 100, 100), ("k", 5, 50)],
      entry.2.1 ≤ Json.Literal.maxWord ∧ entry.2.2 ≤ Json.Literal.maxWord := by
    decide
  obtain ⟨htold, -⟩ := hquery 0 none (Agenda.start (telling (bodyWith
    [("k", 97, 99), ("l", 100, 100), ("k", 5, 50)]))) 200 _ (.anew _ _ _) nofun rfl
    (by decide) (by decide)
  obtain ⟨b, snapshot, hperform, -, hget⟩ := htold _ (bodyWith_tells hwords)
  refine ⟨⟨b, snapshot, hperform, hget "k", hget "m"⟩, ?_, ?_, ?_⟩
  · have hnumeral := @Json.Numeral.mk false ['9', '0'] ['5'] _ _ (by simp) (by decide) (by simp)
      (by decide) .missing
    exact (hnumbers _ _ hnumeral).few (by decide) (by decide) (by decide)
  · have hnumeral := @Json.Numeral.mk false (Nat.toDigits 10 9007199791611905) [] _ _ (by decide)
      (by decide) (by decide) (by simp) .missing
    exact ((hnumbers _ _ hnumeral).word ⟨rfl, by decide⟩).trans (by decide)
  · have hpower : Json.Exponent (some 30) ['e', '3', '0'] :=
      Json.Exponent.bare (.inl rfl) (show ['3', '0'] ≠ [] by simp) (by decide)
    have hnumeral := @Json.Numeral.mk false ['1'] [] _ _ (by simp) (by decide) (by simp) (by simp) hpower
    have hvalue : Json.Literal.value ⟨false, ['1'], [], some 30⟩ = 10 ^ 30 := by
      have hdigits : Json.Literal.digits ⟨false, ['1'], [], some 30⟩ = 1 := rfl
      have hexponent : Json.Literal.exponent ⟨false, ['1'], [], some 30⟩ = (30 : Nat) := rfl
      rw [Json.Literal.value, Json.Literal.magnitude, hdigits, hexponent, zpow_natCast]
      norm_num
    have hmagnitude : Json.Literal.magnitude ⟨false, ['1'], [], some 30⟩ = 10 ^ 30 := hvalue
    have hbound : Json.Literal.magnitude ⟨false, ['1'], [], some 30⟩ ≤ Json.Literal.bound := by
      have hwithin : 10 ^ 30 ≤ Json.Literal.bound := by decide +kernel
      rw [hmagnitude]
      exact_mod_cast hwithin
    have hfloor : Json.Literal.floor ≤ Json.Literal.magnitude ⟨false, ['1'], [], some 30⟩ :=
      Json.Literal.floor_le_one.trans (by rw [hmagnitude]; norm_num)
    have htaken := hnumbers _ _ hnumeral
    obtain ⟨x, hx⟩ := Option.isSome_iff_exists.mp (htaken.accepted hbound)
    obtain ⟨d, -, hnear, rfl⟩ := htaken.near (fun hword => absurd hword.1 (by decide)) hfloor x hx
    rw [hvalue, hmagnitude] at hnear
    exact ⟨d, hnear, hx⟩

/-- A response with a word of more than 53 bits, and a number with more digits than 53 bits hold. -/
def longBody : List UInt8 :=
  Text.utf8 ("\x7b\"data\":\x7b\"statistics\":\x7b\"k\":\x7b" ++
    "\"tempRating\":9007199791611905,\"rating\":92.25899124145509\x7d\x7d\x7d\x7d")

/-- Neither of these numbers is rounded to the nearest 64-bit number and then to 32 bits. -/
theorem ratings_rounded_otherwise :
    ∃ b snapshot rating, (Agenda.start (telling longBody)).perform (ratings 0) =
        (b, some (.ok snapshot)) ∧ snapshot.get? "k" = some rating ∧
      rating.temporary ≠
        (Json.Literal.nearest ⟨false, "9007199791611905".toList, [], none⟩).narrow .single ∧
      rating.settled ≠
        (Json.Literal.nearest ⟨false, "92".toList, "25899124145509".toList, none⟩).narrow .single := by
  obtain ⟨b, hperform⟩ := perform_ratings (.anew 0 0 (telling longBody)) nofun rfl (by decide) (by decide)
  have hread : (readRatings longBody).toOption.bind (·.get? "k") =
      some ⟨⟨false, 1509949441⟩, ⟨false, 1119388826⟩⟩ := by
    decide +kernel
  cases hsnapshot : readRatings longBody with
  | error fault =>
    rw [hsnapshot] at hread
    cases hread
  | ok snapshot =>
    rw [hsnapshot] at hread hperform
    exact ⟨b, snapshot, _, hperform, hread, by decide +kernel, by decide +kernel⟩

end Network

end ValidatorAlarm
