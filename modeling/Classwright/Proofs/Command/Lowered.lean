import Classwright.Proofs.Command.LineEnds
import Classwright.Proofs.PublicSection.Lowered
/-!
# Commands below more lines

Lines in front of a text do not change what is written into a class of it: when a request moves down with the
text, the same functions go to the same place of the class (`insertion_lowered`), and the answer differs in
nothing but the line of that place.
-/
namespace Classwright

open Workspace

variable {k : Nat} {w w' : Workspace} {u : Url} {d d' : Document}

/-! ## Requests and answers -/

mutual
/-- The node and all nodes below it, `k` lines further down. -/
def SyntaxNode.lowered (k : Nat) : SyntaxNode → SyntaxNode
  | .mk kind range children => .mk kind (range.map (Range.lowered k)) (SyntaxNode.loweredForest k children)

/-- The nodes of a forest `k` lines further down. -/
def SyntaxNode.loweredForest (k : Nat) : List SyntaxNode → List SyntaxNode
  | [] => []
  | n :: rest => n.lowered k :: SyntaxNode.loweredForest k rest
end

/-- The request with all its ranges `k` lines further down. -/
def AccessorRequest.lowered (k : Nat) (r : AccessorRequest) : AccessorRequest :=
  { r with
    node := r.node.map (SyntaxNode.lowered k)
    symbols := Symbol.loweredForest k r.symbols
    range := r.range.map (Range.lowered k) }

/-- The request with all its ranges and its position `k` lines further down. -/
def SpecialMemberRequest.lowered (k : Nat) (r : SpecialMemberRequest) : SpecialMemberRequest :=
  { r with symbols := Symbol.loweredForest k r.symbols, position := r.position.lowered k }

/-- The same functions in a place `k` lines further down. -/
def Insertion.lowered (k : Nat) (i : Insertion) : Insertion := { i with insertAt := i.insertAt.lowered k }

/-- Two workspaces that differ in the text under a URL: in the second there are `k` more lines in front of it. -/
structure Workspace.Lowers (k : Nat) (u : Url) (w w' : Workspace) : Prop where
  settings : w'.settings = w.settings
  documents : ∃ (d d' : Document) (block : List Text), w.load u = .ok d ∧ w'.load u = .ok d' ∧
    d.Reachable ∧ d'.Reachable ∧ block.length = k ∧ (∀ l ∈ block, '\n' ∉ l) ∧
    d'.text = Text.wholeLines block ++ d.text

/-- Outcomes of a command on two workspaces that are the same, but for an insertion `k` lines further down. -/
inductive Command.Lowered (k : Nat) (w w' : Workspace) :
    Except CommandFault CommandOutcome → Except CommandFault CommandOutcome → Prop
  | fault (e : CommandFault) : Lowered k w w' (.error e) (.error e)
  | nothing (warning : Option Text) :
    Lowered k w w' (.ok ⟨.null, warning, w.files⟩) (.ok ⟨.null, warning, w'.files⟩)
  | insertion (i : Insertion) : Lowered k w w' (.ok (w.plain i.toJson)) (.ok (w'.plain (i.lowered k).toJson))

@[simp] theorem Insertion.functions_lowered (i : Insertion) : (i.lowered k).functions = i.functions := rfl

/-! ## The class of a request -/

theorem SyntaxNode.hasBuiltinType_lowered (n : SyntaxNode) : (n.lowered k).hasBuiltinType = n.hasBuiltinType := by
  obtain ⟨kind, range, children⟩ := n
  cases children with
  | nil => rfl
  | cons first rest =>
    obtain ⟨kind', range', children'⟩ := first
    rfl

theorem SyntaxNode.range_lowered (n : SyntaxNode) : (n.lowered k).range = n.range.map (Range.lowered k) := by
  obtain ⟨kind, range, children⟩ := n
  rfl

namespace AccessorRequest

variable {r : AccessorRequest}

theorem member_lowered (s : Settings) : (r.lowered k).member s = r.member s := by
  have hnode : (r.lowered k).node.map SyntaxNode.hasBuiltinType = r.node.map SyntaxNode.hasBuiltinType := by
    rw [lowered, Option.map_map]
    congr 1
    funext n
    exact n.hasBuiltinType_lowered
  have hbuiltin (builtins : List Text) (type : Text) :
      Member.isBuiltinType (r.lowered k).node builtins type = Member.isBuiltinType r.node builtins type := by
    rw [Member.isBuiltinType, hnode, Member.isBuiltinType]
  unfold member Member.ofHover
  simp only [hbuiltin]
  rfl

theorem memberRange_lowered : (r.lowered k).memberRange = r.memberRange.map (Range.lowered k) := by
  obtain ⟨url, hover, node, symbols, range, option⟩ := r
  cases node with
  | none => cases range <;> rfl
  | some n =>
    simp only [memberRange, lowered, Option.map_some, Option.bind_some, SyntaxNode.range_lowered]
    cases n.range with
    | none => cases range <;> rfl
    | some a => rfl

theorem enclosingClass_lowered : (r.lowered k).enclosingClass = r.enclosingClass.map (ClassSymbol.lowered k) := by
  rw [enclosingClass, memberRange_lowered, enclosingClass]
  cases r.memberRange with
  | none => rfl
  | some a =>
    show ClassSymbol.locate (ClassSymbol.inForest (Symbol.loweredForest k r.symbols)) (a.lowered k) = _
    rw [ClassSymbol.inForest_lowered]
    exact ClassSymbol.locate_lowered k _ a

end AccessorRequest

theorem SpecialMemberRequest.enclosingClass_lowered (r : SpecialMemberRequest) :
    (r.lowered k).enclosingClass = r.enclosingClass.map (ClassSymbol.lowered k) := by
  have hlocate : ClassSymbol.locateAt (ClassSymbol.inForest (r.lowered k).symbols) (r.lowered k).position =
      (ClassSymbol.locateAt (ClassSymbol.inForest r.symbols) r.position).map (ClassSymbol.lowered k) := by
    rw [lowered, ClassSymbol.inForest_lowered]
    exact ClassSymbol.locate_lowered k _ (.at r.position)
  rw [enclosingClass, hlocate, enclosingClass, Option.filter_map]
  rfl

/-! ## The place in the class -/

theorem Insertion.intoClass_lowered {block : List Text} (hd : d.Reachable) (hd' : d'.Reachable)
    (hb : ∀ l ∈ block, '\n' ∉ l) (ht : d'.text = Text.wholeLines block ++ d.text) (c : ClassSymbol)
    (source : Option Url) (write : Text → List GeneratedFunction) :
    intoClass d' (c.lowered block.length) source write = (intoClass d c source write).lowered block.length := by
  have htext : d'.textIn (c.lowered block.length).range = d.textIn c.range :=
    Document.textIn_lowered hd.lineStarts hd'.lineStarts hb ht c.range
  simp only [intoClass, htext, PublicSection.ofClass_lowered, PublicSection.bodyStart_lowered,
    PublicSection.insertionPoint_lowered, PublicSection.indent_lowered]
  rfl

theorem AccessorRequest.insertion_lowered (r : AccessorRequest) (h : Workspace.Lowers k r.url w w') :
    (r.lowered k).insertion w' = (r.insertion w).map (Option.map (Insertion.lowered k)) := by
  obtain ⟨hsettings, d, d', block, hload, hload', hd, hd', rfl, hb, ht⟩ := h
  have hurl : (r.lowered block.length).url = r.url := rfl
  have hoption : (r.lowered block.length).option = r.option := rfl
  unfold insertion
  dsimp only
  rw [hoption, enclosingClass_lowered, hurl, hload, hload', hsettings, member_lowered]
  cases AccessorOption.ofLabel? (r.option.getD []) with
  | none => rfl
  | some o =>
    cases r.enclosingClass with
    | none => rfl
    | some c =>
      simp only [Option.map_some, bind, Except.bind, pure, Except.pure, Except.map,
        Insertion.intoClass_lowered hd hd' hb ht, Insertion.functions_lowered, apply_ite (Option.map _),
        Option.map_none]

theorem SpecialMemberRequest.insertion_lowered (r : SpecialMemberRequest) (h : Workspace.Lowers k r.url w w') :
    (r.lowered k).insertion w' = (r.insertion w).map (Option.map (Insertion.lowered k)) := by
  obtain ⟨hsettings, d, d', block, hload, hload', hd, hd', rfl, hb, ht⟩ := h
  have hurl : (r.lowered block.length).url = r.url := rfl
  have hoptions : (r.lowered block.length).options = r.options := rfl
  have hplacement : (r.lowered block.length).placement = r.placement := rfl
  unfold insertion
  rw [hoptions, enclosingClass_lowered, hurl, hload, hload', hplacement]
  cases membersOf r.options with
  | error e => rfl
  | ok members =>
    cases r.enclosingClass with
    | none => rfl
    | some c =>
      simp only [Option.map_some, bind, Except.bind, pure, Except.pure, Except.map,
        Insertion.intoClass_lowered hd hd' hb ht]
      rfl

/-! ## Runs -/

namespace Command

/-- What is answered with functions, or with a warning when there is nothing to insert. -/
def answer (warning : Option Text) (w : Workspace) : Option Insertion → CommandOutcome
  | some i => w.plain i.toJson
  | none => ⟨.null, warning, w.files⟩

theorem run_createGetterSetter {r : AccessorRequest} {j : Json} (hj : AccessorRequest.decode j = .ok r) (w : Workspace) :
    createGetterSetter.run w j = (r.insertion w).map (answer none w) := by
  simp only [run, readArgument, hj, Except.mapError, bind, Except.bind]
  cases r.insertion w with
  | error e => rfl
  | ok i => cases i <;> rfl

theorem run_createSpecialMember {r : SpecialMemberRequest} {j : Json} (hj : SpecialMemberRequest.decode j = .ok r)
    (w : Workspace) : createSpecialMember.run w j = (r.insertion w).map (answer (some noClassWarning) w) := by
  simp only [run, readArgument, hj, Except.mapError, bind, Except.bind]
  cases r.insertion w with
  | error e => rfl
  | ok i => cases i <;> rfl

theorem Lowered.map_answer (warning : Option Text) (w w' : Workspace) : ∀ result : Except CommandFault (Option Insertion),
    Lowered k w w' (result.map (answer warning w)) ((result.map (Option.map (Insertion.lowered k))).map (answer warning w'))
  | .error e => .fault e
  | .ok none => .nothing warning
  | .ok (some i) => .insertion i

/-- **Lines in front of a document** change nothing in what is written into it, but for the line: a request for
accessors or special members that moves down with the text is answered with the same functions in the same
place of the class, or with the same fault or warning. -/
theorem run_lowered (k : Nat) (u : Url) (w w' : Workspace) (h : Workspace.Lowers k u w w') :
    (∀ r : AccessorRequest, r.url = u →
      (r.lowered k).insertion w' = (r.insertion w).map (Option.map (Insertion.lowered k)) ∧
      ∀ j j', AccessorRequest.decode j = .ok r → AccessorRequest.decode j' = .ok (r.lowered k) →
        Lowered k w w' (createGetterSetter.run w j) (createGetterSetter.run w' j')) ∧
    ∀ r : SpecialMemberRequest, r.url = u →
      (r.lowered k).insertion w' = (r.insertion w).map (Option.map (Insertion.lowered k)) ∧
      ∀ j j', SpecialMemberRequest.decode j = .ok r → SpecialMemberRequest.decode j' = .ok (r.lowered k) →
        Lowered k w w' (createSpecialMember.run w j) (createSpecialMember.run w' j') := by
  refine ⟨fun r hr => ?_, fun r hr => ?_⟩
  · subst hr
    have hinsertion := r.insertion_lowered h
    refine ⟨hinsertion, fun j j' hj hj' => ?_⟩
    rw [run_createGetterSetter hj, run_createGetterSetter hj', hinsertion]
    exact .map_answer none w w' _
  · subst hr
    have hinsertion := r.insertion_lowered h
    refine ⟨hinsertion, fun j j' hj hj' => ?_⟩
    rw [run_createSpecialMember hj, run_createSpecialMember hj', hinsertion]
    exact .map_answer (some noClassWarning) w w' _

end Command

/-- Asks for the getter of a field, two lines below the line where its class begins. -/
def AccessorRequest.getterBelow (line : Nat) : Json :=
  .ofFields [("uri", .str "file:///a.h"), ("hover", .str "### field `m_x`\nType: `int`"),
    ("symbols", .arr [.ofFields [("name", .str "A"), ("kind", .int 5),
      ("range", Range.toJson ⟨⟨line, 0⟩, ⟨line + 3, 2⟩⟩)]]),
    ("range", Range.toJson ⟨⟨line + 2, 6⟩, ⟨line + 2, 9⟩⟩), ("option", .str "Getter (in source)")]

/-- A class in the first line of its file, and the same one below a comment and an empty line. -/
theorem Command.run_lowered_field :
    let u : Url := ⟨"file", some {}, "/a.h", none, none⟩
    let workspace (t : Text) : Workspace := ⟨.usual, DocumentStore.empty.insert u (.new "cpp" t 1), [], { root := .dir [] }⟩
    let w := workspace "class A \x7b\npublic:\n  int m_x;\n\x7d;"
    let w' := workspace "// Notes\n\nclass A \x7b\npublic:\n  int m_x;\n\x7d;"
    let (j, j') := (AccessorRequest.getterBelow 0, AccessorRequest.getterBelow 2)
    Workspace.Lowers 2 u w w' ∧ ∃ r i, AccessorRequest.decode j = .ok r ∧ r.insertion w = .ok (some i) ∧
      i.insertAt = ⟨3, 0⟩ ∧ i.functions.length = 1 ∧ (r.lowered 2).insertion w' = .ok (some (i.lowered 2)) ∧
      Lowered 2 w w' (createGetterSetter.run w j) (createGetterSetter.run w' j') := by
  intro u workspace w w'
  have h : Workspace.Lowers 2 u w w' :=
    ⟨rfl, _, _, ["// Notes", []], rfl, rfl, .new .., .new .., rfl, by decide, by decide⟩
  let r : AccessorRequest := ⟨u, ⟨"### field `m_x`\nType: `int`"⟩, none, [.node "A" 5 ⟨⟨0, 0⟩, ⟨3, 2⟩⟩ []],
    some ⟨⟨2, 6⟩, ⟨2, 9⟩⟩, some "Getter (in source)"⟩
  obtain ⟨hinsertion, hrun⟩ := (run_lowered 2 u w w' h).1 r rfl
  obtain ⟨i, hi, hplace, hlength⟩ :
      ∃ i, r.insertion w = .ok (some i) ∧ i.insertAt = ⟨3, 0⟩ ∧ i.functions.length = 1 :=
    ⟨_, rfl, by decide, by decide⟩
  exact ⟨h, r, i, rfl, hi, hplace, hlength, by rw [hinsertion, hi]; rfl, hrun _ _ rfl rfl⟩

end Classwright
