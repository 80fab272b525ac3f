/-!
Case mapping as far as it can produce ASCII text: the letters of ASCII, and the few letters beyond
ASCII whose other case is made of ASCII letters. All other characters stay as they are, so a mapped
text equals an ASCII word exactly when the full Unicode mapping does.
-/

namespace CallGuard.Text

def capital (c : Char) : List Char :=
  match c with
  | 'ß' => ['S', 'S']
  | 'ı' => ['I']
  | 'ſ' => ['S']
  | 'ﬀ' => ['F', 'F']
  | 'ﬁ' => ['F', 'I']
  | 'ﬂ' => ['F', 'L']
  | 'ﬃ' => ['F', 'F', 'I']
  | 'ﬄ' => ['F', 'F', 'L']
  | 'ﬅ' => ['S', 'T']
  | 'ﬆ' => ['S', 'T']
  | c => [c.toUpper]

/-- The small form of a character; the Kelvin sign becomes the plain letter. -/
def small (c : Char) : Char :=
  if c.toNat = 0x212A then 'k' else c.toLower

/-- The form of a character in which case does not count. -/
def folded (c : Char) : List Char :=
  match c with
  | 'ẞ' => ['s', 's']
  | 'ı' => ['ı']
  | c => (capital c).map small

def capitals (cs : List Char) : List Char :=
  cs.flatMap capital

def smalls (cs : List Char) : List Char :=
  cs.map small

/-- A text in the form in which case does not count. -/
def foldedCase (cs : List Char) : List Char :=
  cs.flatMap folded

end CallGuard.Text
