/-!
# Markup escapes

Text is made safe for markup by writing entities for the characters that markup reads.  The
characters are replaced one after the other over the whole text, the ampersand first, so that no
entity is escaped again.
-/

namespace Stencil.Html

/-- The text with `entity` in place of every `c`. -/
def replace (c : Char) (entity : List Char) (text : List Char) : List Char :=
  text.flatMap fun d => if d = c then entity else [d]

def escape (text : List Char) : List Char :=
  replace '<' "&lt;".toList (replace '>' "&gt;".toList (replace '&' "&amp;".toList text))

def escapeAttribute (text : List Char) : List Char :=
  replace '"' "&quot;".toList (escape text)

end Stencil.Html
