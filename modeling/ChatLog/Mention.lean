import ChatLog.Number.Numeral

/-!
Mentions: the texts that name a user or a channel by id. A user mention is `<@`, an optional `!`,
digits and `>`; a channel mention is `<#`, digits and `>`. The digits have a value of 64 bits.
-/
namespace ChatLog.Mention

/-- Digits and the closing bracket, which ends the text. -/
def closing? (text : List Char) : Option UInt64 :=
  if text.dropWhile Char.isDigit = ['>'] then Numeral.digits64? (text.takeWhile Char.isDigit)
  else none

def user? : List Char → Option UInt64
  | '<' :: '@' :: '!' :: rest => closing? rest
  | '<' :: '@' :: rest => closing? rest
  | _ => none

def channel? : List Char → Option UInt64
  | '<' :: '#' :: rest => closing? rest
  | _ => none

end ChatLog.Mention
