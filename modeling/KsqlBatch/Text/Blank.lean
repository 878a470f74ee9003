/-
  This file defines the classes of blank characters and the
  removal of a class of characters from both ends of a text.

  Key definitions include:
    * `isWhiteSpace`
    * `isControlOrSpace`
    * `strip`
    * `stripString`
    * `trimWhiteSpace`
-/

------------------------------------------------------------
-- Classes
------------------------------------------------------------

namespace KsqlBatch

namespace Text

/- The characters with the Unicode property `White_Space`. -/
def isWhiteSpace
    (c : Char) : Bool :=
  let n := c.toNat
  (9 ≤ n && n ≤ 13) || n == 0x20 || n == 0x85 ||
    n == 0xA0 || n == 0x1680 ||
    (0x2000 ≤ n && n ≤ 0x200A) ||
    n == 0x2028 || n == 0x2029 || n == 0x202F ||
    n == 0x205F || n == 0x3000

/- The characters up to and including the space. -/
def isControlOrSpace
    (c : Char) : Bool :=
  c.toNat ≤ 0x20

end Text

end KsqlBatch

------------------------------------------------------------
-- Stripping
------------------------------------------------------------

namespace KsqlBatch

namespace Text

/- Remove a class of characters from both ends. -/
def strip
    (inClass : Char → Bool)
    (cs : List Char) : List Char :=
  ((cs.dropWhile inClass).reverse.dropWhile inClass).reverse

/- Remove a class of characters from both ends of a string. -/
def stripString
    (inClass : Char → Bool)
    (s : String) : String :=
  String.ofList (strip inClass s.toList)

/- Remove Unicode white space from both ends of a string. -/
def trimWhiteSpace
    (s : String) : String :=
  stripString isWhiteSpace s

@[simp] theorem strip_nil
    (inClass : Char → Bool) :
    strip inClass [] = [] := rfl

@[simp] theorem toList_stripString
    (inClass : Char → Bool)
    (s : String) :
    (stripString inClass s).toList =
      strip inClass s.toList := by
  simp [stripString]

end Text

end KsqlBatch
