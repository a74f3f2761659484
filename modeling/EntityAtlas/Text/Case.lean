import EntityAtlas.Text.Letters

/-!
# Letter case

The small and the capital form of a text. Changing case can lengthen a text, as some letters have no
single counterpart. The small form of a sigma depends on its place: it has a form of its own at the
end of a word.
-/

namespace EntityAtlas.Text

/-- Whether a code point is in one of the ranges. -/
def inRanges (ranges : List (Nat × Nat)) (n : Nat) : Bool :=
  ranges.any fun (first, last) => first ≤ n && n ≤ last

/-- Whether a run of code points has one among it. -/
def Shift.has (s : Shift) (n : Nat) : Bool :=
  s.first ≤ n && n ≤ s.last && (n - s.first) % s.stride = 0

/-- The other form of a code point by a table; without any it stands for itself. -/
def shifted (table : List Shift) (n : Nat) : Char :=
  match table.find? (·.has n) with
  | some s => Char.ofNat (n + s.distance).toNat
  | none => Char.ofNat n

/-- The small form of a character, wherever it stands. -/
def lowerChar (c : Char) : List Char :=
  let n := c.toNat
  if n < 0x80 then [c.toLower]
  else if n = 0x130 then ['i', Char.ofNat 0x307]
  else [shifted Letters.small n]

/-- Whether a cased character comes next, others being passed over. -/
def casedAhead (s : List Char) : Bool :=
  match s.dropWhile fun c => inRanges Letters.passed c.toNat with
  | c :: _ => inRanges Letters.cased c.toNat
  | [] => false

/-- The capital sigma. -/
def capitalSigma : Char := Char.ofNat 0x3a3

/-- The small form of a capital sigma after the characters `before`, the nearest first, and before
the characters `rest`. -/
def lowerSigma (before rest : List Char) : Char :=
  if casedAhead before && !casedAhead rest then Char.ofNat 0x3c2 else Char.ofNat 0x3c3

/-- The small forms of the characters that come after `before`, the nearest first. -/
def lowerAfter (before : List Char) : List Char → List Char
  | [] => []
  | c :: rest =>
    (if c = capitalSigma then [lowerSigma before rest] else lowerChar c) ++
      lowerAfter (c :: before) rest

/-- The text in small letters. -/
def lower (s : String) : String := String.ofList (lowerAfter [] s.toList)

/-- The capital form of a character. -/
def upperChar (c : Char) : List Char :=
  let n := c.toNat
  if n < 0x80 then [c.toUpper]
  else match Letters.capitals.lookup n with
    | some codes => codes.map Char.ofNat
    | none => [shifted Letters.capital n]

/-- The text in capitals. -/
def upper (s : String) : String := String.ofList (s.toList.flatMap upperChar)

end EntityAtlas.Text
