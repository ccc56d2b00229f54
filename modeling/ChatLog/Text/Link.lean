import ChatLog.Text.Replace

/-!
Defusing links: a zero width space after the scheme keeps readers of the chat from expanding a
link into a preview.
-/
namespace ChatLog.Text.Link

def plain : List Char := "http://".toList

def secure : List Char := "https://".toList

/-- The text with every link broken by a zero width space before its colon. -/
def defuse (text : List Char) : List Char :=
  replace secure "https\u200B://".toList (replace plain "http\u200B://".toList text)

end ChatLog.Text.Link
