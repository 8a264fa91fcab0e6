/-!
# Texts as bytes

A text travels as its UTF-8 bytes.  `utf8` writes them; `readUtf8` reads any bytes and leaves a
hole, `none`, for each byte that belongs to no character, so that a reader can accept damage in
the parts it does not look at.
-/
namespace ValidatorAlarm.Text

/-- What is asked of all characters in a list is decided along the list, not by trying every
character there is. -/
instance decidableAll (p : Char → Prop) [DecidablePred p] (cs : List Char) : Decidable (∀ c ∈ cs, p c) :=
  List.decidableBAll p cs

/-- The UTF-8 bytes of a text. -/
def utf8 (s : String) : List UInt8 := s.toList.flatMap String.utf8EncodeChar

/-- The number of bytes of a text. -/
def byteLength (s : String) : Nat := (utf8 s).length

def isTail (b : UInt8) : Bool := 0x80 ≤ b && b ≤ 0xBF

/-- The payload of a continuation byte. -/
def tailBits (b : UInt8) : Nat := b.toNat - 0x80

/-- The code point of a sequence of three bytes. -/
def code3 (a b c : UInt8) : Nat := ((a.toNat - 0xE0) * 64 + tailBits b) * 64 + tailBits c

/-- The code point of a sequence of four bytes. -/
def code4 (a b c d : UInt8) : Nat :=
  (((a.toNat - 0xF0) * 64 + tailBits b) * 64 + tailBits c) * 64 + tailBits d

/-- The character that starts a byte sequence, and the bytes after it.  Only the shortest form of a
character counts, and no surrogate is one. -/
def readChar? : List UInt8 → Option (Char × List UInt8)
  | [] => none
  | a :: rest =>
    if a < 0x80 then some (Char.ofNat a.toNat, rest)
    else if 0xC2 ≤ a && a ≤ 0xDF then
      match rest with
      | b :: rest =>
        if isTail b then some (Char.ofNat ((a.toNat - 0xC0) * 64 + tailBits b), rest) else none
      | [] => none
    else if 0xE0 ≤ a && a ≤ 0xEF then
      match rest with
      | b :: c :: rest =>
        if isTail b && isTail c && 0x800 ≤ code3 a b c &&
            !(0xD800 ≤ code3 a b c && code3 a b c ≤ 0xDFFF) then
          some (Char.ofNat (code3 a b c), rest)
        else none
      | _ => none
    else if 0xF0 ≤ a && a ≤ 0xF4 then
      match rest with
      | b :: c :: d :: rest =>
        if isTail b && isTail c && isTail d && 0x10000 ≤ code4 a b c d &&
            code4 a b c d ≤ 0x10FFFF then
          some (Char.ofNat (code4 a b c d), rest)
        else none
      | _ => none
    else none

theorem readChar?_length {bytes rest : List UInt8} {c : Char}
    (h : readChar? bytes = some (c, rest)) : rest.length < bytes.length := by
  unfold readChar? at h
  repeat' split at h
  all_goals simp at h
  all_goals (obtain ⟨_, rfl⟩ := h; simp; try omega)

/-- The characters of a byte sequence, with a hole for each byte that is part of none. -/
def readUtf8 (bytes : List UInt8) : List (Option Char) :=
  match bytes with
  | [] => []
  | b :: after =>
    match _h : readChar? (b :: after) with
    | some (c, rest) => some c :: readUtf8 rest
    | none => none :: readUtf8 after
termination_by bytes.length
decreasing_by
  · exact readChar?_length _h
  · simp

/-- The text of a byte sequence that is UTF-8 throughout. -/
def ofUtf8? (bytes : List UInt8) : Option String :=
  ((readUtf8 bytes).mapM id).map String.ofList

end ValidatorAlarm.Text
