import VocabBindings.Keyed
import VocabBindings.Rdf.Graph
import VocabBindings.Rdf.Relative
import VocabBindings.Rdf.Turtle.Token
import VocabBindings.Vocabulary.Terms

/-!
Reading Turtle. The reader goes through the text once, with what the open brackets interrupted on a
stack. A bracket stands for a node of its own, and what it holds is said about that node. A list
stands for a chain of nodes, one for each of its items.
-/

set_option autoImplicit false

namespace VocabBindings.Rdf.Turtle

/-- What the reader waits for. The items of a list are kept last one first. -/
inductive Awaiting where
  | statement
  | scope (dotted : Bool)
  | scopeIri (dotted : Bool) (scope : Text)
  | base (dotted : Bool)
  | declarationEnd
  | verb (subject : Term)
  | object (subject predicate : Term)
  | afterObject (subject predicate : Term)
  | item (before : List Term)

def Awaiting.place : Awaiting → Place
  | statement => .statement
  | scope _ => .scope
  | scopeIri _ _ => .reference
  | base _ => .reference
  | declarationEnd => .stop
  | verb _ => .verb
  | object _ _ => .term
  | afterObject _ _ => .stop
  | item _ => .term

def Awaiting.declared (dotted : Bool) : Awaiting := if dotted then declarationEnd else statement

/-- The state of the reader: the declared scopes and the address that relative IRIs count from, the
triples so far, last one first, the number of nodes without a label so far, what the open brackets
interrupted, innermost first, and what comes next. Without an address relative IRIs stay as they
are. -/
structure Progress where
  dialect : Dialect
  scopes : List (Text × Text) := []
  base : Option Text := none
  triples : List Triple := []
  nodes : Nat := 0
  interrupted : List Awaiting := []
  awaiting : Awaiting := .statement

/-- A node without a label. No written label is equal to the one that it has in its place. -/
def unlabelled (n : Nat) : Term := .blank ('[' :: Text.ofNat n ++ [']'])

def chain : Nat → List Term → List Triple
  | _, [] => []
  | n, item :: items =>
    let next := if items = [] then .iri Terms.nil else unlabelled (n + 1)
    ⟨unlabelled n, .iri Terms.first, item⟩ :: ⟨unlabelled n, .iri Terms.rest, next⟩ ::
      chain (n + 1) items

namespace Progress

def absolute (p : Progress) (written : Text) : Except Fault Text :=
  match p.base with
  | some base => Relative.resolve base written
  | none => .ok written

/-- The term that has a name. A blank node is named in the scope of one underscore, unless that
scope is declared. The empty scope may stay undeclared in Notation 3. -/
def named (p : Progress) : Reference → Except Fault Term
  | .iri t => (p.absolute t).map .iri
  | .name scope part =>
    match Keyed.get? scope p.scopes with
    | some space => .ok (.iri (space ++ part))
    | none =>
      if scope = ['_'] then .ok (.blank part)
      else if scope = [] && p.dialect = .n3 then
        (p.absolute ['#']).map fun space => .iri (space ++ part)
      else .error .malformed

def term (p : Progress) : Token → Except Fault Term
  | .reference r => p.named r
  | .literal w => do
    let datatype ← w.datatype.mapM p.named
    .ok (.ofWritten w.content w.language (datatype.map Term.text))
  | .faulty f => .error f
  | _ => .error .malformed

def take (p : Progress) (t : Term) : Awaiting → Except Fault Progress
  | .statement => .ok { p with awaiting := .verb t }
  | .verb s => .ok { p with awaiting := .object s t }
  | .object s v => .ok { p with triples := ⟨s, v, t⟩ :: p.triples, awaiting := .afterObject s v }
  | .item before => .ok { p with awaiting := .item (t :: before) }
  | _ => .error .malformed

def openWith (p : Progress) (inside : Awaiting) : Progress :=
  { p with interrupted := p.awaiting :: p.interrupted, awaiting := inside }

def takeTerm (p : Progress) : Token → Except Fault Progress
  | .openBracket => .ok { p.openWith (.verb (unlabelled p.nodes)) with nodes := p.nodes + 1 }
  | .openList => .ok (p.openWith (.item []))
  | tok =>
    match p.term tok with
    | .error e => .error e
    | .ok t => p.take t p.awaiting

def resume (p : Progress) (t : Term) : Except Fault Progress :=
  match p.interrupted with
  | [] => .error .malformed
  | awaiting :: interrupted => { p with interrupted }.take t awaiting

def close (p : Progress) (subject : Term) : Token → Except Fault Progress
  | .dot =>
    if p.interrupted.isEmpty then .ok { p with awaiting := .statement } else .error .malformed
  | .closeBracket => p.resume subject
  | _ => .error .malformed

def closeList (p : Progress) (items : List Term) : Except Fault Progress :=
  let head := if items = [] then .iri Terms.nil else unlabelled p.nodes
  { p with
    triples := (chain p.nodes items).reverse ++ p.triples
    nodes := p.nodes + items.length }.resume head

def declareScope (p : Progress) (dotted : Bool) (scope : Text) (space : Reference) :
    Except Fault Progress := do
  let iri ← p.absolute (← p.named space).text
  .ok { p with scopes := Keyed.put scope iri p.scopes, awaiting := .declared dotted }

def declareBase (p : Progress) (dotted : Bool) (r : Reference) : Except Fault Progress := do
  let iri ← p.absolute (← p.named r).text
  let base := if Relative.isAbsolute iri then some iri else p.base
  .ok { p with base, awaiting := .declared dotted }

def step (p : Progress) (tok : Token) : Except Fault Progress :=
  match p.awaiting, tok with
  | .statement, .declareScope dotted => .ok { p with awaiting := .scope dotted }
  | .statement, .declareBase dotted => .ok { p with awaiting := .base dotted }
  | .statement, .finish => .ok p
  | .statement, .cut => .ok p
  | .statement, tok => p.takeTerm tok
  | .scope dotted, .reference (.name scope _) => .ok { p with awaiting := .scopeIri dotted scope }
  | .scope _, .cut => .error .endsEarly
  | .scopeIri dotted scope, .reference r => p.declareScope dotted scope r
  | .base dotted, .reference r => p.declareBase dotted r
  | .base _, .cut => .error .endsEarly
  | .declarationEnd, .dot => .ok { p with awaiting := .statement }
  | .verb s, .typeWord => .ok { p with awaiting := .object s (.iri Terms.type) }
  | .verb _, .semicolon => .ok p
  | .verb _, .cut => .error .endsEarly
  | .verb s, .dot => p.close s .dot
  | .verb s, .closeBracket => p.close s .closeBracket
  | .verb _, tok => p.takeTerm tok
  | .object _ _, .cut => .error .endsEarly
  | .object _ _, tok => p.takeTerm tok
  | .afterObject s v, .comma => .ok { p with awaiting := .object s v }
  | .afterObject s _, .semicolon => .ok { p with awaiting := .verb s }
  | .afterObject _ _, .cut => .error .endsEarly
  | .afterObject s _, tok => p.close s tok
  | .item before, .closeList => p.closeList before.reverse
  | .item _, .cut => .error .endsEarly
  | .item _, tok => p.takeTerm tok
  | _, .faulty f => .error f
  | _, _ => .error .malformed

/-- The state at the end of a text. The number counts the characters that a token or a comment
already read still covers, and the flag says whether the text must go on. -/
def readFrom : Nat → Bool → Progress → Text → Except Fault Progress
  | _, isOpen, p, [] => p.step (if isOpen then .cut else .finish)
  | covered + 1, isOpen, p, _ :: rest => readFrom covered isOpen p rest
  | 0, _, p, c :: rest =>
    if isSpace c rest then readFrom 0 false p rest
    else if c = '#' then readFrom (rest.takeWhile (· ≠ '\n')).length false p rest
    else
      let (tok, n) := token p.dialect p.awaiting.place (c :: rest)
      match p.step tok with
      | .error f => .error f
      | .ok p => readFrom (n - 1) tok.isOpenEnded p rest

end Progress

/-- The graph that a text writes. A byte order mark at its start does not count. -/
def read (d : Dialect) (t : Text) : Except Fault Graph :=
  let t := if t.head? = some '\uFEFF' then t.tail else t
  (Progress.readFrom 0 false { dialect := d } t).map fun p => Graph.ofList p.triples.reverse

end VocabBindings.Rdf.Turtle
