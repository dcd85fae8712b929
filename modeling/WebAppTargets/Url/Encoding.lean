import WebAppTargets.Text.Percent

namespace WebAppTargets.Url

def isControl (c : Char) : Bool := c.toNat < 0x20 || 0x7E < c.toNat

def inFragment (c : Char) : Bool := isControl c || [' ', '"', '<', '>', '`'].contains c

def inPath (c : Char) : Bool := inFragment c || ['#', '?', '{', '}'].contains c

def inCredentials (c : Char) : Bool :=
  inPath c || ['/', ':', ';', '=', '@', '[', '\\', ']', '^', '|'].contains c

/-- The apostrophe is encoded in the queries of well-known schemes only. -/
def inQuery (isKnown : Bool) (c : Char) : Bool :=
  isControl c || [' ', '"', '#', '<', '>'].contains c || (isKnown && c == '\'')

end WebAppTargets.Url
