/-! Text as bytes in UTF-8, read strictly or with every faulty stretch replaced. -/

namespace RequestBinding.Utf8

def encode (text : String) : List UInt8 := text.toList.flatMap String.utf8EncodeChar

/-- What a first byte announces: how many bytes follow, the bits it carries itself, and the range of the
byte after it. -/
structure Lead where
  following : Nat
  bits : Nat
  low : UInt8
  high : UInt8

/-- The announcement of a byte, if a character can start with it. -/
def lead (b : UInt8) : Option Lead :=
  if b < 0x80 then some ⟨0, b.toNat, 0x80, 0xBF⟩
  else if b < 0xC2 then none
  else if b < 0xE0 then some ⟨1, b.toNat % 32, 0x80, 0xBF⟩
  else if b < 0xF0 then
    some ⟨2, b.toNat % 16, if b == 0xE0 then 0xA0 else 0x80, if b == 0xED then 0x9F else 0xBF⟩
  else if b < 0xF5 then
    some ⟨3, b.toNat % 8, if b == 0xF0 then 0x90 else 0x80, if b == 0xF4 then 0x8F else 0xBF⟩
  else none

/-- Reads the bytes that follow a first byte; where one is missing, the bytes before it are dropped. -/
def follow : Nat → Nat → UInt8 → UInt8 → List UInt8 → Option Nat × List UInt8
  | 0, code, _, _, rest => (some code, rest)
  | _ + 1, _, _, _, [] => (none, [])
  | n + 1, code, low, high, b :: rest =>
    if low ≤ b ∧ b ≤ high then follow n (code * 64 + b.toNat % 64) 0x80 0xBF rest else (none, b :: rest)

/-- The character at the head of the bytes, or nothing for a stretch that is part of no character. -/
def next (b : UInt8) (rest : List UInt8) : Option Char × List UInt8 :=
  match lead b with
  | none => (none, rest)
  | some l =>
    match follow l.following l.bits l.low l.high rest with
    | (code, after) => (code.map Char.ofNat, after)

private theorem length_follow_le (n code : Nat) (low high : UInt8) (bytes : List UInt8) :
    (follow n code low high bytes).2.length ≤ bytes.length := by
  fun_induction follow n code low high bytes with
  | case1 => simp
  | case2 => simp
  | case3 n code low high b rest _ ih => simp only [List.length_cons]; omega
  | case4 => simp

theorem length_next_le (b : UInt8) (rest : List UInt8) : (next b rest).2.length ≤ rest.length := by
  unfold next
  split
  · simp
  · exact length_follow_le ..

/-- The characters of the bytes, in reverse and on top of those already read. -/
def scan (done : List (Option Char)) : List UInt8 → List (Option Char)
  | [] => done
  | b :: rest =>
    have := length_next_le b rest
    scan ((next b rest).1 :: done) (next b rest).2
termination_by bytes => bytes.length

/-- The characters of the bytes, nothing standing for a stretch that is part of no character. -/
def characters (bytes : List UInt8) : List (Option Char) := (scan [] bytes).reverse

/-- The text of the bytes, unless some stretch is part of no character. -/
def decode? (bytes : List UInt8) : Option String :=
  let found := characters bytes
  if found.all Option.isSome then some (String.ofList (found.filterMap id)) else none

/-- How many bytes stand before the first stretch that is part of no character. -/
def validLength (bytes : List UInt8) : Nat :=
  (String.ofList (((characters bytes).takeWhile Option.isSome).filterMap id)).utf8ByteSize

/-- The text of the bytes, with U+FFFD for each stretch that is part of no character. -/
def decodeLossy (bytes : List UInt8) : String :=
  String.ofList ((characters bytes).map (·.getD '\uFFFD'))

end RequestBinding.Utf8
