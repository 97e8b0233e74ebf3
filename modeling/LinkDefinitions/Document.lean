import LinkDefinitions.Parser.Feed
import LinkDefinitions.ReferenceMap
import LinkDefinitions.Text.Lines

/-!
# Paragraphs and documents

`parseDefinitions` separates the definitions at the start of one paragraph from the lines that are
left of it. `collect` gathers the definitions of all paragraphs of a document in a reference map,
in which the first definition of a label wins.
-/

namespace LinkDefinitions

/-- A paragraph, given as one text or as its lines without their endings. -/
inductive Paragraph
  | text (t : Text)
  | lines (ls : List Text)
  deriving DecidableEq, Repr

/-- The lines of a paragraph. -/
def Paragraph.toLines : Paragraph → List Text
  | text t => splitLines t
  | lines ls => ls

/-- What a paragraph consists of. -/
structure Extraction where
  definitions : List Definition
  /-- The lines that belong to no definition. -/
  remaining : List Text
  notices : List Notice
  deriving DecidableEq, Repr

/-- The remaining lines as one text, if there is any. -/
def Extraction.paragraphText (e : Extraction) : Option Text :=
  if e.remaining = [] then none else some (joinLines e.remaining)

/-- Extracts the definitions at the start of a paragraph, with the usual limit for the length of
labels unless one is given. -/
def parseDefinitions (limit : Option Int) (paragraph : Paragraph) : Except Fault Extraction := do
  let parser ← Parser.start limit
  let fed ← parser.feedAll paragraph.toLines
  let (definitions, harvested) ← fed.harvest
  return ⟨definitions, harvested.remaining, harvested.notices⟩

/-- A reference map with the definitions of the paragraphs read so far. -/
structure Collection where
  map : ReferenceMap
  stored : Nat
  /-- The number of definitions that were not stored. -/
  ignored : Nat
  notices : List Notice
  deriving DecidableEq, Repr

namespace Collection

/-- A collection into a map, before the first paragraph. -/
def start (m : ReferenceMap) : Collection := ⟨m, 0, 0, []⟩

/-- The collection with the definitions of one more paragraph. -/
def add (c : Collection) (paragraph : Paragraph) : Except Fault Collection := do
  let found ← parseDefinitions none paragraph
  let offered := c.map.addAll found.definitions
  return {
    map := offered.map
    stored := c.stored + offered.value
    ignored := c.ignored + (found.definitions.length - offered.value)
    notices := c.notices ++ found.notices ++ offered.notices }

/-- The collection with the definitions of further paragraphs, in order. -/
def addAll (c : Collection) : List Paragraph → Except Fault Collection
  | [] => .ok c
  | paragraph :: others => do (← c.add paragraph).addAll others

/-- The summary that ends a collection. -/
def summary (c : Collection) : Notice := .collected c.stored c.ignored

end Collection

/-- Adds the definitions of all paragraphs to a map, and reports how many were stored. -/
def collect (m : ReferenceMap) (paragraphs : List Paragraph) : Except Fault Collection := do
  let c ← (Collection.start m).addAll paragraphs
  return { c with notices := c.notices ++ [c.summary] }

end LinkDefinitions
