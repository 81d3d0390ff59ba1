/-!
# Model files

A model file is a sequence of words of four bytes. One to three bytes at the end
that do not make up a word are passed over.
-/

namespace PolygonRenderer.Dump

/-- Which byte of a word comes first. -/
inductive ByteOrder where
  | lowestFirst
  | highestFirst
deriving DecidableEq, Repr

namespace ByteOrder

/-- The word of four bytes. -/
def word (order : ByteOrder) (a b c d : UInt8) : UInt32 :=
  match order with
  | lowestFirst =>
    a.toUInt32 ||| b.toUInt32 <<< 8 ||| c.toUInt32 <<< 16 ||| d.toUInt32 <<< 24
  | highestFirst =>
    d.toUInt32 ||| c.toUInt32 <<< 8 ||| b.toUInt32 <<< 16 ||| a.toUInt32 <<< 24

def words (order : ByteOrder) : List UInt8 → List UInt32
  | a :: b :: c :: d :: rest => order.word a b c d :: words order rest
  | _ => []

/-- A file has a quarter as many words as bytes. -/
theorem length_words (order : ByteOrder) (bytes : List UInt8) :
    (order.words bytes).length = bytes.length / 4 := by
  fun_induction order.words bytes with
  | case1 a b c d rest ih =>
    simp only [List.length_cons, ih]
    omega
  | case2 bytes h =>
    match bytes, h with
    | [], _ => rfl
    | [_], _ => simp
    | [_, _], _ => simp
    | [_, _, _], _ => simp
    | a :: b :: c :: d :: rest, h => exact absurd rfl (h a b c d rest)

end ByteOrder

end PolygonRenderer.Dump
