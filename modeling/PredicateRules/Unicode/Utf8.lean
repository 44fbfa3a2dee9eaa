namespace PredicateRules.Unicode.Utf8

/-- First and last byte. -/
abbrev ByteRange := Nat × Nat

def encode (code : Nat) : List Nat :=
  if code < 0x80 then [code]
  else if code < 0x800 then [0xC0 + code / 0x40, 0x80 + code % 0x40]
  else if code < 0x10000 then
    [0xE0 + code / 0x1000, 0x80 + code / 0x40 % 0x40, 0x80 + code % 0x40]
  else
    [0xF0 + code / 0x40000, 0x80 + code / 0x1000 % 0x40, 0x80 + code / 0x40 % 0x40,
      0x80 + code % 0x40]

/-- The last code points of one, two and three bytes. -/
def lengthLimits : List Nat := [0x7F, 0x7FF, 0xFFFF]

/-- How many code points share all bytes but the last one, the last two and the last three. -/
def blockSizes : List Nat := [0x40, 0x1000, 0x40000]

/-- Where a part of the range ends that fills its blocks only at one side, if the range is in more
than one block. -/
def blockCut? (first last size : Nat) : Option Nat :=
  if first / size = last / size then none
  else if first % size ≠ 0 then some (first / size * size + size - 1)
  else if last % size ≠ size - 1 then some (last / size * size - 1)
  else none

/-- Where the first part of a range ends and the second one starts, unless the range is one sequence
of ranges of bytes. The surrogates are in neither part. -/
def cut? (first last : Nat) : Option (Nat × Nat) :=
  if first < 0xE000 && 0xD7FF < last then some (0xD7FF, 0xE000)
  else
    match lengthLimits.find? fun limit => first ≤ limit && limit < last with
    | some limit => some (limit, limit + 1)
    | none =>
      if last ≤ 0x7F then none
      else (blockSizes.findSome? (blockCut? first last)).map fun limit => (limit, limit + 1)

/-- Every part of a range is shorter than the range. -/
def divide (first last : Nat) : Nat → List (List ByteRange)
  | 0 => []
  | rounds + 1 =>
    if last < first then []
    else
      match cut? first last with
      | some (limit, start) => divide first limit rounds ++ divide start last rounds
      | none => [(encode first).zip (encode last)]

/-- The sequences of ranges of bytes that together are the characters of the range. -/
def sequences (first last : Nat) : List (List ByteRange) := divide first last (last + 1 - first)

end PredicateRules.Unicode.Utf8
