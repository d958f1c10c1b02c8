/-! How the text of a document is laid out in lines: what separates its parts, and what a gap within
a text stands for. -/
namespace Promotions.Document

def isPrintable (c : Char) : Bool :=
  c = '\t' || c = '\n' || ('\x20' ≤ c && c ≤ '\x7e') || c = '\u0085' ||
    ('\u00a0' ≤ c && c ≠ '\ufffe' && c ≠ '\uffff')

def isLineEnd (c : Char) : Bool := c = '\n' || c = '\u0085' || c = '\u2028' || c = '\u2029'

def isBlank (c : Char) : Bool := c = ' ' || c = '\t'

def isGap (c : Char) : Bool := isBlank c || isLineEnd c

def isApart (rest : List Char) : Bool := rest.head?.all isGap

/-- What follows the spaces, line ends and remarks at the start of a text. A remark goes from a
hash to the end of its line; tabs may stand in remarks only. -/
def skipGap (inRemark : Bool) : List Char → List Char
  | [] => []
  | c :: rest =>
      if isLineEnd c then skipGap false rest
      else if inRemark || c = ' ' then skipGap inRemark rest
      else if c = '#' then skipGap true rest
      else c :: rest

def lineEnd (c : Char) : Char := if c = '\u0085' then '\n' else c

/-- What a gap within a text stands for. Its blanks stay if no line ends among them; else they are
dropped and the line ends stay, but a first line feed is a space if it is alone and nothing if it
is not. -/
def fold (gap : List Char) : List Char :=
  match (gap.filter isLineEnd).map lineEnd with
  | [] => gap
  | ['\n'] => [' ']
  | '\n' :: others => others
  | ends => ends

def isDocumentMark : List Char → Bool
  | '-' :: '-' :: '-' :: rest => isApart rest
  | '.' :: '.' :: '.' :: rest => isApart rest
  | _ => false

end Promotions.Document
