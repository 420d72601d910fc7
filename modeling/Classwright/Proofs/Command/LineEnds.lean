import Classwright.Command.Run
import Classwright.Proofs.Document.History
import Classwright.Proofs.Document.LineEnds
import Classwright.Proofs.HeaderGuard.LineEnds
/-!
# Line ends in commands

What the commands write into a document does not depend on how its lines end: functions go to the same
place in a class with the same indentation, and a guard is found and written on the same lines
(`run_crlf`).
-/
namespace Classwright

variable {w : Workspace} {u : Url} {d d' : Document}

/-- The workspace with a document that is open under a URL. -/
def Workspace.withDocument (w : Workspace) (u : Url) (d : Document) : Workspace :=
  { w with documents := w.documents.insert u d }

theorem Workspace.load_withDocument (w : Workspace) (u v : Url) (d : Document) :
    (w.withDocument u d).load v = if v = u then .ok d else w.load v := by
  rw [load, withDocument, DocumentStore.get?_insert]
  by_cases h : v = u
  · rw [if_pos h, if_pos h]
  · rw [if_neg h, if_neg h]
    rfl

/-- A document and the same one with a carriage return in front of each line feed. -/
structure Document.CrlfForm (d d' : Document) : Prop where
  reachable : d.Reachable
  reachable' : d'.Reachable
  notMem : '\r' ∉ d.text
  text : d'.text = d.text.crlf

namespace Document.CrlfForm

theorem linesOf_textIn (h : CrlfForm d d') (r : Range) :
    PublicSection.linesOf (d'.textIn r) = PublicSection.linesOf (d.textIn r) :=
  linesOf_textIn_crlf h.reachable.lineStarts h.reachable'.lineStarts h.text r

theorem intoClass (h : CrlfForm d d') (c : ClassSymbol) (source : Option Url) (write : Text → List GeneratedFunction) :
    Insertion.intoClass d' c source write = Insertion.intoClass d c source write := by
  simp only [Insertion.intoClass, PublicSection.ofClass_congr c (h.linesOf_textIn c.range),
    PublicSection.bodyStart_congr c (h.linesOf_textIn c.range)]

/-- What is done with a document that is loaded does not depend on the form of the open one. -/
theorem load_bind {α : Type} (v : Url) {use : Document → Except CommandFault α} (h : use d' = use d) :
    ((w.withDocument u d').load v).bind use = ((w.withDocument u d).load v).bind use := by
  rw [Workspace.load_withDocument, Workspace.load_withDocument]
  split
  · exact h
  · rfl

theorem accessors (h : CrlfForm d d') (r : AccessorRequest) :
    r.insertion (w.withDocument u d') = r.insertion (w.withDocument u d) := by
  unfold AccessorRequest.insertion
  dsimp only
  cases AccessorOption.ofLabel? (r.option.getD []) with
  | none => rfl
  | some o =>
    cases r.enclosingClass with
    | none => rfl
    | some c => exact load_bind r.url (by simp only [h.intoClass])

theorem specialMembers (h : CrlfForm d d') (r : SpecialMemberRequest) :
    r.insertion (w.withDocument u d') = r.insertion (w.withDocument u d) := by
  unfold SpecialMemberRequest.insertion
  cases SpecialMemberRequest.membersOf r.options with
  | error e => rfl
  | ok members =>
    cases r.enclosingClass with
    | none => rfl
    | some c => exact load_bind r.url (by simp only [h.intoClass])

theorem guardEdits (h : CrlfForm d d') (v : Url) {edits : Text → Text → List TextEdit}
    (hedits : ∀ guard, edits d.text.crlf guard = edits d.text guard) :
    (w.withDocument u d').guardEdits v edits = (w.withDocument u d).guardEdits v edits := by
  unfold Workspace.guardEdits
  cases Workspace.filePath v with
  | error e => rfl
  | ok path => exact load_bind v (by rw [h.text, hedits])

end Document.CrlfForm

/-- **Line ends do not matter.** Both forms of a document have the same lines in each range and the same
guard, and on both the commands that write functions or a guard have the same result. -/
theorem Command.run_crlf (w : Workspace) (u : Url) (d d' : Document) (h : d.CrlfForm d') :
    (∀ c : ClassSymbol, PublicSection.ofClass c (d'.textIn c.range) = PublicSection.ofClass c (d.textIn c.range) ∧
      PublicSection.bodyStart c (d'.textIn c.range) = PublicSection.bodyStart c (d.textIn c.range)) ∧
    HeaderGuard.find? d'.text = HeaderGuard.find? d.text ∧
    ∀ c ∈ [createGetterSetter, createSpecialMember, createHeaderGuard, amendHeaderGuard], ∀ argument,
      c.run (w.withDocument u d') argument = c.run (w.withDocument u d) argument := by
  refine ⟨fun c => ⟨PublicSection.ofClass_congr c (h.linesOf_textIn c.range),
    PublicSection.bodyStart_congr c (h.linesOf_textIn c.range)⟩, by rw [h.text, HeaderGuard.find?_crlf h.notMem], ?_⟩
  simp only [List.forall_mem_cons, List.not_mem_nil, false_imp_iff, implies_true, and_true]
  refine ⟨fun argument => ?_, fun argument => ?_, fun argument => ?_, fun argument => ?_⟩
  · unfold run
    simp only [h.accessors]
    rfl
  · unfold run
    simp only [h.specialMembers]
    rfl
  · unfold run
    simp only [h.guardEdits _ (HeaderGuard.create_crlf d.text)]
    rfl
  · unfold run
    simp only [h.guardEdits _ (HeaderGuard.amend_crlf h.notMem)]
    rfl

/-- A guarded class. The range that is given for it ends behind the end of its last line. -/
theorem Command.run_crlf_guarded :
    let d := Document.new "cpp" "#ifndef A_H\n#define A_H\nclass A \x7b\npublic:\n  int x;\n\x7d;\n#endif // A_H" 1
    let d' := Document.new "cpp" "#ifndef A_H\r\n#define A_H\r\nclass A \x7b\r\npublic:\r\n  int x;\r\n\x7d;\r\n#endif // A_H" 1
    let c : ClassSymbol := ⟨"A", .classType, ⟨⟨2, 0⟩, ⟨5, 9⟩⟩, []⟩
    d.CrlfForm d' ∧ d'.textIn c.range = "class A \x7b\r\npublic:\r\n  int x;\r\n\x7d;\r" ∧
      PublicSection.ofClass c (d'.textIn c.range) = .openEnded ⟨⟨4, 0⟩, ⟨5, 0⟩⟩ "  " ∧
      HeaderGuard.find? d'.text = some ⟨0, 1, 6⟩ := by
  intro d d' c
  have h : d.CrlfForm d' := ⟨.new .., .new .., by decide, by decide⟩
  obtain ⟨hclass, hguard, -⟩ := run_crlf ⟨.usual, .empty, [], { root := .dir [] }⟩ ⟨"file", none, "/a.h", none, none⟩ d d' h
  exact ⟨h, by decide, (hclass c).1.trans (by decide), hguard.trans (by decide)⟩

end Classwright
