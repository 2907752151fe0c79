import CompilerDriver.Log.Record

/-!
# Log filters

A filter is a list of rules, each with the beginning of a target and the least important level it
lets pass. For a record the rule with the longest beginning that fits decides; when none fits the
record is not shown. A filter is written as rules with commas between them: `level`, `target` or
`target=level`.
-/

namespace CompilerDriver.Log

/-- One rule: what the target has to begin with, and the rank up to which levels pass. Rank 0 lets
nothing pass. A rule without a beginning fits every target. -/
structure Rule where
  beginning : Option String
  rank : Nat
deriving DecidableEq, Repr

namespace Rule

/-- The length that decides between rules that fit. -/
def reach (r : Rule) : Nat := (r.beginning.map String.utf8ByteSize).getD 0

/-- Whether the rule speaks about a target. -/
def fits (r : Rule) (target : String) : Bool := r.beginning.all fun b => b.isPrefixOf target

end Rule

/-- A filter: rules, no two with the same beginning. -/
structure Filter where
  rules : List Rule
deriving DecidableEq, Repr

namespace Filter

/-- One rule more; it takes the place of a rule with the same beginning. -/
def insert (f : Filter) (r : Rule) : Filter :=
  if f.rules.any fun q => q.beginning = r.beginning then
    ⟨f.rules.map fun q => if q.beginning = r.beginning then r else q⟩
  else ⟨f.rules ++ [r]⟩

/-- The rule that decides for a target: the one that reaches furthest, the later one of two. -/
def deciding? (f : Filter) (target : String) : Option Rule :=
  (f.rules.filter fun r => r.fits target).foldl
    (fun best r => match best with
      | some b => if b.reach ≤ r.reach then some r else some b
      | none => some r)
    none

/-- Whether a record is shown. -/
def passes (f : Filter) (r : Record) : Bool :=
  (f.deciding? r.speaker.target).any fun rule => r.level.rank ≤ rule.rank

/-- The filter that shows all records up to a level. -/
def upTo (l : Level) : Filter := ⟨[⟨none, l.rank⟩]⟩

/-- The rank that the name of a level stands for, in any mixture of cases; `off` is rank 0. -/
def rankOfName? (name : String) : Option Nat :=
  let name := name.map Char.toUpper
  if name = "OFF" then some 0
  else (Level.all.find? fun l => l.name = name).map Level.rank

/-- Spaces of the standard's property White_Space. -/
def isSpace (c : Char) : Bool :=
  let n := c.toNat
  (0x9 ≤ n && n ≤ 0xd) || n = 0x20 || n = 0x85 || n = 0xa0 || n = 0x1680 ||
    (0x2000 ≤ n && n ≤ 0x200a) || n = 0x2028 || n = 0x2029 || n = 0x202f || n = 0x205f ||
    n = 0x3000

/-- A text without the spaces around it. -/
def trim (s : String) : String :=
  String.ofList ((s.toList.dropWhile isSpace).reverse.dropWhile isSpace).reverse

/-- One written rule; none if it is empty or cannot be read. A level stands alone for all targets,
a target alone for all its levels. -/
def readRule? (text : String) : Option Rule :=
  let text := trim text
  if text = "" then none
  else match text.splitOn "=" with
    | [only] =>
      match rankOfName? only with
      | some rank => some ⟨none, rank⟩
      | none => some ⟨some only, Level.trace.rank⟩
    | [target, level] =>
      let level := trim level
      if level = "" then some ⟨some target, Level.trace.rank⟩
      else (rankOfName? level).map fun rank => ⟨some target, rank⟩
    | _ => none

/-- The filter that a text describes. A text without rules lets only errors pass. -/
def ofText (text : String) : Filter :=
  let filter := ((text.splitOn ",").filterMap readRule?).foldl insert ⟨[]⟩
  if filter.rules = [] then upTo .error else filter

end Filter

end CompilerDriver.Log
