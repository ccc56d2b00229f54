/-!
Limits and offsets on rows. A negative limit is no limit and a negative offset passes over nothing.
-/
namespace ChatLog.Store

def signedWord (word : UInt64) : Int :=
  if word.toNat < 0x8000000000000000 then word.toNat else word.toNat - 0x10000000000000000

/-- The rows after an offset, up to a limit. -/
def paged {α : Type} (limit offset : Int) (rows : List α) : List α :=
  let left := rows.drop offset.toNat
  if limit < 0 then left else left.take limit.toNat

end ChatLog.Store
