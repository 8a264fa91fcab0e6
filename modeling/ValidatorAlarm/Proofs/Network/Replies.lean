import ValidatorAlarm.Network.StakedKeys
import ValidatorAlarm.Proofs.Json.Meaning
import ValidatorAlarm.Proofs.Text.Base64
import ValidatorAlarm.Proofs.Text.Hex
import ValidatorAlarm.Proofs.Text.Parts

/-!
# What the contract tells

A good reply of the contract carries items, each of them bytes in base64 or nothing, in which keys and
states alternate.  The keys that it tells of are found by counting: those at the even places whose
neighbour is the wanted state.  So an item that is nothing, or that is no key, keeps its place, and no
state is ever taken for a key.

A bad reply ends the whole query.  There are four ways to be bad, and each of them has its fault.
-/
namespace ValidatorAlarm

theorem Response.successful_eq (r : Response) :
    r.successful = if 200 ≤ r.status ∧ r.status < 300 then .ok r else .error (.status r.status) := by
  simp only [successful, isSuccess, Bool.and_eq_true, decide_eq_true_eq]

namespace Network

open Text (Base64.encode utf8)

/-! ### Items -/

/-- The bytes at a place; there are none where nothing stands. -/
def itemAt (items : List (Option (List UInt8))) (i : Nat) : List UInt8 := (items[i]?.getD none).getD []

/-- The keys that some items tell of: the bytes at an even place, if they are as many as a key has, and
if the state at the place behind it is the wanted one. -/
def keysIn (items : List (Option (List UInt8))) : List String :=
  (List.range (items.length / 2)).filterMap fun j =>
    if (itemAt items (2 * j)).length = 96 ∧ itemAt items (2 * j + 1) = utf8 "staked" then
      some (Text.Hex.encode (itemAt items (2 * j)))
    else none

theorem inPairs_eq (items : List (Option (List UInt8))) :
    inPairs (items.map (·.getD [])) =
      (List.range (items.length / 2)).map fun j => (itemAt items (2 * j), itemAt items (2 * j + 1)) := by
  match items with
  | [] => rfl
  | [item] => simp [inPairs]
  | first :: second :: rest =>
    have hlength : (first :: second :: rest).length / 2 = rest.length / 2 + 1 := by
      simp only [List.length_cons]
      omega
    calc inPairs ((first :: second :: rest).map (·.getD []))
      _ = (first.getD [], second.getD []) :: inPairs (rest.map (·.getD [])) := rfl
      _ = _ := by
        rw [inPairs_eq rest, hlength, List.range_succ_eq_map, List.map_cons, List.map_map]
        rfl

theorem stakedKeysOf_items (items : List (Option (List UInt8))) :
    stakedKeysOf (items.map (·.getD [])) = keysIn items := by
  rw [stakedKeysOf, inPairs_eq, List.filterMap_map, keysIn]
  refine List.filterMap_congr fun j _ => ?_
  exact if_congr (by simp only [Bool.and_eq_true, decide_eq_true_eq]; rfl) rfl rfl

/-- A key is told of by 192 small hexadecimal digits, which are read as the bytes of its item. -/
theorem keysIn_spec {items : List (Option (List UInt8))} {key : String} (h : key ∈ keysIn items) :
    ∃ j, 2 * j + 1 < items.length ∧ (itemAt items (2 * j)).length = 96 ∧
      itemAt items (2 * j + 1) = utf8 "staked" ∧ key.toList.length = 192 ∧
      (∀ c ∈ key.toList, c ∈ "0123456789abcdef".toList) ∧
      Text.Hex.decode (utf8 key) = .ok (itemAt items (2 * j)) := by
  obtain ⟨j, hj, hkey⟩ := List.mem_filterMap.mp h
  have hrange := List.mem_range.mp hj
  split at hkey
  · rename_i hstaked
    cases hkey
    refine ⟨j, by omega, hstaked.1, hstaked.2, ?_, ?_, Text.Hex.decode_encode _⟩
    · rw [Text.Hex.encode, String.toList_ofList, Text.Hex.length_pairs, hstaked.1]
    · intro c hc
      exact Text.Hex.mem_encode hc
  · cases hkey

/-! ### Replies -/

/-- An item as it is written: bytes in base64, or `null`. -/
inductive CarriesItem : Json → Option (List UInt8) → Prop where
  | null : CarriesItem .null none
  | bytes {raw : Json.Raw} {bytes : List UInt8}
      (h : Json.Spells raw (String.ofList (Base64.encode bytes))) : CarriesItem (.text raw) (some bytes)

/-- Where the items stand in a reply. -/
def itemsPath : List String := ["data", "data", "returnData"]

/-- The body of a reply carries items: they are listed in their place, or there is `null` there or
nothing at all, and then there are none. -/
inductive Carries : List UInt8 → List (Option (List UInt8)) → Prop where
  | listed {body : List UInt8} {root : Json} {values : List Json} {items : List (Option (List UInt8))}
      (hbody : root.WrittenIn body) (hplace : Json.Under itemsPath root (some (.array values)))
      (hitems : List.Forall₂ CarriesItem values items) : Carries body items
  | null {body : List UInt8} {root : Json} (hbody : root.WrittenIn body)
      (hplace : Json.Under itemsPath root (some .null)) : Carries body []
  | missing {body : List UInt8} {root : Json} {path : List String} (hbody : root.WrittenIn body)
      (hpath : path <+: itemsPath) (hplace : Json.Under path root none) : Carries body []

/-- A good reply: it has a status of success and carries these items. -/
def Tells (reply : Reply) (items : List (Option (List UInt8))) : Prop :=
  ∃ status body, reply.result = .ok ⟨status, body⟩ ∧ 200 ≤ status ∧ status < 300 ∧
    Carries body items

/-- What is made of a reply. -/
def told (reply : Reply) : Except Fault (List String) :=
  ((reply.result.bind Response.successful).bind fun response => readItems response.body).map stakedKeysOf

/-- Readers of fields inside each other: what stands at the end of a path is read there, and where the
path breaks off, its end counts as given. -/
theorem innerField?_under {α : Type} {path : List String} {v : Json} {value : Option Json}
    (h : Json.Under path v value) (more : List String) (read : Json → Option α) (missing : α) :
    (path ++ more).foldr (fun name read => innerField? name read missing) read v =
      Json.field? (more.foldr (fun name read => innerField? name read missing) read) missing value := by
  induction h with
  | last hv hvalue =>
    rw [List.singleton_append, List.foldr_cons, innerField?, hv.single hvalue]
    rfl
  | step hv hinner h ih =>
    rw [List.cons_append, List.foldr_cons, innerField?,
      hv.single (show Json.valuesOf _ _ = Option.toList (some _) from hinner)]
    exact ih

theorem itemBytes?_carried {v : Json} {item : Option (List UInt8)} (h : CarriesItem v item) :
    ∃ text, Json.nullable? Json.string? v = some text ∧ itemBytes? text = some (item.getD []) := by
  cases h with
  | null => exact ⟨none, rfl, rfl⟩
  | @bytes raw bytes h =>
    refine ⟨some (String.ofList (Base64.encode bytes)), ?_, ?_⟩
    · simp only [Json.nullable?, Json.string?, h.read?, Option.map_some]
    · simp only [itemBytes?, String.toList_ofList, Text.Base64.decode?_encode, Option.getD_some]

/-- What stands at the place of the items. -/
def readPlace : Json → Option (Option (List (Option String))) :=
  Json.nullable? (Json.list? (Json.nullable? Json.string?))

theorem returned?_under {body : List UInt8} {root : Json} {path more : List String}
    {value : Option Json} (hbody : root.WrittenIn body) (hpath : path ++ more = itemsPath)
    (h : Json.Under path root value) :
    returned? body = (Json.field? (more.foldr (fun name read => innerField? name read none) readPlace)
      none value).map (·.getD []) := by
  rw [← innerField?_under h more, hpath, returned?, Json.ofBytes?_written hbody, Option.map_eq_bind]
  rfl

theorem mapM_carried {values : List Json} {items : List (Option (List UInt8))}
    (h : List.Forall₂ CarriesItem values items) :
    ∃ texts, values.mapM (Json.nullable? Json.string?) = some texts ∧
      texts.mapM itemBytes? = some (items.map (·.getD [])) := by
  induction h with
  | nil => exact ⟨[], rfl, rfl⟩
  | cons hitem _ ih =>
    obtain ⟨text, hvalue, hbytes⟩ := itemBytes?_carried hitem
    obtain ⟨texts, hvalues, hall⟩ := ih
    refine ⟨text :: texts, ?_, ?_⟩
    · rw [List.mapM_cons, hvalue, hvalues]
      rfl
    · rw [List.mapM_cons, hbytes, hall]
      rfl

/-- **The items of a reply are read as they are.** -/
theorem readItems_carried {body : List UInt8} {items : List (Option (List UInt8))}
    (h : Carries body items) : readItems body = .ok (items.map (·.getD [])) := by
  unfold readItems
  cases h with
  | listed hbody hplace hitems =>
    obtain ⟨texts, hvalues, hall⟩ := mapM_carried hitems
    have hread : readPlace (.array _) = some (some texts) := congrArg (Option.map some) hvalues
    rw [returned?_under hbody (List.append_nil _) hplace]
    simp only [List.foldr_nil, Json.field?, hread, Option.map_some, Option.getD_some,
      Option.bind_some, hall]
  | null hbody hplace =>
    rw [returned?_under hbody (List.append_nil _) hplace]
    rfl
  | missing hbody hpath hplace =>
    obtain ⟨more, hmore⟩ := hpath
    rw [returned?_under hbody hmore hplace]
    rfl

theorem told_of_tells {reply : Reply} {items : List (Option (List UInt8))} (h : Tells reply items) :
    told reply = .ok (keysIn items) := by
  obtain ⟨status, body, hresult, hlow, hhigh, hcarries⟩ := h
  have hsuccess : Response.successful ⟨status, body⟩ = .ok ⟨status, body⟩ :=
    if_pos (by simp only [Response.isSuccess, Bool.and_eq_true, decide_eq_true_eq]; omega)
  rw [told, hresult]
  simp only [Except.bind, Response.successful_eq, if_pos (And.intro hlow hhigh),
    readItems_carried hcarries]
  exact congrArg Except.ok (stakedKeysOf_items items)

/-! ### A reply for all items -/

/-- An object with one field. -/
def writeField (name : String) (value : List Char) : List Char :=
  '\x7b' :: (Json.quote name ++ ':' :: (value ++ ['\x7d']))

theorem writeField_laysOut (name : String) {v : Json} {cs : List Char} (h : Json.LaysOut v.tokens cs) :
    Json.LaysOut (Json.object [(Json.rawOf name, v)]).tokens (writeField name cs) := by
  have hobject := Json.LaysOut.object (fun _ => name) (fun _ : Unit => h) [()]
  simpa [writeField, List.intercalate] using hobject

theorem isObject_field (name : String) (v : Json) :
    (Json.object [(Json.rawOf name, v)]).IsObject [(name, v)] :=
  ⟨_, rfl, .cons ⟨Json.spells_rawOf name, rfl⟩ .nil⟩

theorem under_field (name : String) (v : Json) :
    Json.Under [name] (.object [(Json.rawOf name, v)]) (some v) := by
  refine .last (isObject_field name v) ?_
  simp [Json.valuesOf]

theorem under_fields {name : String} {path : List String} {v : Json} {value : Option Json}
    (h : Json.Under path v value) :
    Json.Under (name :: path) (.object [(Json.rawOf name, v)]) value := by
  refine .step (isObject_field name v) ?_ h
  simp [Json.valuesOf]

def itemValue : Option (List UInt8) → Json
  | none => .null
  | some bytes => .text (Json.rawOf (String.ofList (Base64.encode bytes)))

def writeItem : Option (List UInt8) → List Char
  | none => ['n', 'u', 'l', 'l']
  | some bytes => Json.quote (String.ofList (Base64.encode bytes))

theorem writeItem_laysOut (item : Option (List UInt8)) :
    Json.LaysOut (itemValue item).tokens (writeItem item) := by
  cases item with
  | none => simpa [itemValue, writeItem, Json.tokens] using Json.LaysOut.single .null
  | some bytes =>
    simpa [itemValue, writeItem, Json.tokens] using
      Json.LaysOut.quote (String.ofList (Base64.encode bytes))

/-- A reply with these items. -/
def replyWith (latency : Nat) (items : List (Option (List UInt8))) : Reply :=
  ⟨latency, .ok ⟨200, utf8 (String.ofList (writeField "data" (writeField "data"
    (writeField "returnData" ('[' :: (List.intercalate [','] (items.map writeItem) ++ [']']))))))⟩⟩

/-- Whatever items there are, some reply tells of them. -/
theorem replyWith_tells (latency : Nat) (items : List (Option (List UInt8))) :
    Tells (replyWith latency items) items := by
  have hlist := writeField_laysOut "returnData" (Json.LaysOut.array writeItem_laysOut items)
  have hbody := writeField_laysOut "data" (writeField_laysOut "data" hlist)
  refine ⟨200, _, rfl, by decide, by decide, .listed ⟨_, hbody.written, rfl⟩
    (under_fields (under_fields (under_field "returnData" _))) ?_⟩
  rw [List.forall₂_map_left_iff]
  refine List.forall₂_same.mpr fun item _ => ?_
  cases item with
  | none => exact .null
  | some bytes => exact .bytes (Json.spells_rawOf _)

/-! ### Bad replies -/

/-- A reply is bad in one of four ways, and each has its fault: the request failed; its status is none
of success; its body is not JSON of the right shape; one of its items is no base64. -/
inductive Bad (reply : Reply) : Fault → Prop where
  | failed {fault : Fault} (h : reply.result = .error fault) : Bad reply fault
  | status {status : Nat} {body : List UInt8} (h : reply.result = .ok ⟨status, body⟩)
      (hstatus : status < 200 ∨ 300 ≤ status) : Bad reply (.status status)
  | shape {status : Nat} {body : List UInt8} (h : reply.result = .ok ⟨status, body⟩)
      (hlow : 200 ≤ status) (hhigh : status < 300) (hshape : returned? body = none) :
      Bad reply .unreadable
  | item {status : Nat} {body : List UInt8} {texts : List (Option String)} {text : String}
      (h : reply.result = .ok ⟨status, body⟩) (hlow : 200 ≤ status) (hhigh : status < 300)
      (htexts : returned? body = some texts) (htext : some text ∈ texts)
      (hitem : ∀ bytes, text ≠ String.ofList (Base64.encode bytes)) : Bad reply .unreadable

theorem itemBytes?_eq_none_iff {item : Option String} :
    itemBytes? item = none ↔
      ∃ text, item = some text ∧ ∀ bytes, text ≠ String.ofList (Base64.encode bytes) := by
  cases item with
  | none => simp [itemBytes?]
  | some text =>
    have hsome : ∀ bytes, itemBytes? (some text) = some bytes ↔
        text = String.ofList (Base64.encode bytes) := fun bytes => by
      rw [itemBytes?, Text.Base64.decode?_eq_some_iff, ← String.toList_inj, String.toList_ofList]
    simp only [Option.eq_none_iff_forall_ne_some, ne_eq, hsome, Option.some.injEq, exists_eq_left']

theorem readItems_eq_error_iff {body : List UInt8} {fault : Fault} :
    readItems body = .error fault ↔ fault = .unreadable ∧
      (returned? body = none ∨
        ∃ texts, returned? body = some texts ∧ ∃ item ∈ texts, itemBytes? item = none) := by
  cases htexts : returned? body with
  | none => simp [readItems, htexts, eq_comm]
  | some texts =>
    simp only [← mapM_eq_none_iff, Option.some.injEq, exists_eq_left', reduceCtorEq, false_or]
    cases hitems : texts.mapM itemBytes? <;> simp [readItems, htexts, hitems, eq_comm]

/-- **A reply is bad exactly if nothing is made of it but its fault.** -/
theorem told_eq_error_iff {reply : Reply} {fault : Fault} :
    told reply = .error fault ↔ Bad reply fault := by
  cases hresult : reply.result with
  | error failure =>
    rw [told, hresult]
    constructor
    · rintro ⟨⟩
      exact .failed hresult
    · rintro (h | ⟨h, -⟩ | ⟨h, -⟩ | ⟨h, -⟩) <;> cases hresult.symm.trans h
      rfl
  | ok response =>
    obtain ⟨status, body⟩ := response
    by_cases hgood : 200 ≤ status ∧ status < 300
    · have hread : told reply = .error fault ↔ readItems body = .error fault := by
        rw [told, hresult]
        simp only [Except.bind, Response.successful_eq, if_pos hgood]
        cases readItems body <;> simp [Except.map]
      rw [hread, readItems_eq_error_iff]
      constructor
      · rintro ⟨rfl, hshape | ⟨texts, htexts, item, hmem, hitem⟩⟩
        · exact .shape hresult hgood.1 hgood.2 hshape
        · obtain ⟨text, rfl, htext⟩ := itemBytes?_eq_none_iff.mp hitem
          exact .item hresult hgood.1 hgood.2 htexts hmem htext
      · intro hbad
        cases hbad with
        | failed h => cases hresult.symm.trans h
        | status h hstatus =>
          cases hresult.symm.trans h
          omega
        | shape h _ _ hshape =>
          cases hresult.symm.trans h
          exact ⟨rfl, .inl hshape⟩
        | item h _ _ htexts hmem hitem =>
          cases hresult.symm.trans h
          exact ⟨rfl, .inr ⟨_, htexts, _, hmem, itemBytes?_eq_none_iff.mpr ⟨_, rfl, hitem⟩⟩⟩
    · have htold : told reply = .error (.status status) := by
        rw [told, hresult]
        simp only [Except.bind, Response.successful_eq, if_neg hgood]
        rfl
      rw [htold]
      constructor
      · rintro ⟨⟩
        exact .status hresult (by omega)
      · intro hbad
        cases hbad with
        | failed h => cases hresult.symm.trans h
        | status h hstatus =>
          cases hresult.symm.trans h
          rfl
        | shape h hlow hhigh =>
          cases hresult.symm.trans h
          exact absurd ⟨hlow, hhigh⟩ hgood
        | item h hlow hhigh =>
          cases hresult.symm.trans h
          exact absurd ⟨hlow, hhigh⟩ hgood

end Network

end ValidatorAlarm
