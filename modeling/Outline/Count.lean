namespace Outline

def total (ns : List Nat) : Nat := ns.foldr (· + ·) 0

/-- How many words of some bits there are. -/
def wordCount (bits : Nat) : Nat := Nat.pow 2 bits

end Outline
