/-
Reading contracts back from their text.

* `Contract.decode?`: a contract from its text: the lines of the name and the description, and then
  the lines of its tags.
* `Contract.render_toList`: the text of a contract as lines.
* `Contract.decode?_render`: a contract of legible tags is read back from its text.
-/
import WidgetContracts.Contract
import WidgetContracts.Proofs.Tag.Decode

namespace WidgetContracts

namespace Contract

/-- A contract from its text. -/
def decode? (text : String) : Option Contract :=
  match text.toList.splitOn '\n' with
  | name :: description :: tags :: body => do
    let name ← after? "name: " name
    let description ← after? "description: " description
    if tags = "tags:".toList then
      let tags ← Tag.readTags? 2 body
      return ⟨String.ofList name, String.ofList description, tags⟩
    else none
  | _ => none

/-- The lines of a contract. -/
def lines (c : Contract) : List (List Char) :=
  ("name: ".toList ++ c.name.toList) :: ("description: ".toList ++ c.description.toList) ::
    "tags:".toList :: Tag.linesAll 2 c.tags

/-- The text of a contract is its lines, parted by line feeds. -/
lemma render_toList {c : Contract} (h : c.tags ≠ []) :
    c.descriptor.render.toList = ['\n'].intercalate c.lines := by
  have hne : Tag.linesAll 2 c.tags ≠ [] := by
    obtain ⟨t, ht⟩ := List.exists_mem_of_ne_nil _ h
    obtain ⟨l, hl⟩ := List.exists_mem_of_ne_nil _ (Tag.lines_ne_nil 2 t)
    exact List.ne_nil_of_mem (Tag.mem_linesAll.mpr ⟨t, ht, hl⟩)
  have hbody := Tag.intercalate_renderAll_toList c.tags 2
  rw [lines, List.intercalate_cons_cons, List.intercalate_cons_cons,
    List.intercalate_cons_of_ne_nil hne, ← hbody, Descriptor.render, descriptor]
  simp only [String.toList_append, List.append_assoc]
  rfl

/-- **A contract of legible tags is read back from its text**, up to empty descriptions. -/
theorem decode?_render {c : Contract} (hname : Avoids c.name ['\n'])
    (hdescription : Avoids c.description ['\n']) (hne : c.tags ≠ [])
    (hlegible : ∀ t ∈ c.tags, t.Legible) :
    decode? c.descriptor.render = some ⟨c.name, c.description, Tag.trimAll c.tags⟩ := by
  have hlf : ∀ l ∈ c.lines, '\n' ∉ l := by
    rw [lines, List.forall_mem_cons, List.forall_mem_cons, List.forall_mem_cons]
    refine ⟨?_, ?_, by decide, fun l hl => ?_⟩
    · rw [List.mem_append, not_or]
      exact ⟨by decide, hname.notMem List.mem_cons_self⟩
    · rw [List.mem_append, not_or]
      exact ⟨by decide, hdescription.notMem List.mem_cons_self⟩
    · obtain ⟨t, ht, hmem⟩ := Tag.mem_linesAll.mp hl
      exact Tag.lf_notMem_of_mem_lines (hlegible t ht) hmem
  have hsplit : c.descriptor.render.toList.splitOn '\n' = c.lines := by
    rw [render_toList hne]
    exact List.splitOn_intercalate '\n' hlf (List.cons_ne_nil _ _)
  rw [decode?, hsplit, lines]
  simp only [after?_append, Option.bind_eq_bind, Option.bind_some, if_true,
    Tag.readTags?_linesAll hlegible, String.ofList_toList]
  rfl

end Contract

end WidgetContracts
