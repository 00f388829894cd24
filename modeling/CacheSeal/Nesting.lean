/-!
How deep things may lie within each other, or lead to each other, before they are given up. The bound keeps a document,
a path or a chain of links from asking for more room than a run has.
-/

namespace CacheSeal

def maxNesting : Nat := 985

end CacheSeal
