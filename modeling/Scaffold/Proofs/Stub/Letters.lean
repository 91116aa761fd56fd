import Scaffold.Proofs.Stub.Substitution
import Scaffold.Stub.Packaged

/-!
# The packaged stubs by their characters

What the packaged stubs say is checked character by character. Taking a text apart is slow where it is
done by computation, so the characters of each template are laid out once.

* `Spells`: a template with its pieces by their characters, a line at a time.
* `Name.letters`: the pieces of each packaged stub.
* `sound_packaged`: no packaged stub has braces that could be taken for a mark.
-/
namespace Scaffold.Stub

/-- The pieces of a template, each line of it given by its characters. -/
inductive Spells : Template → List Piece → Prop where
  | nil : Spells [] []
  | blank {cs : List Char} {t : Template} {pieces : List Piece} (rest : Spells t pieces) :
      Spells (.blank (String.ofList cs) :: t) (.blank cs :: pieces)
  | last {cs : List Char} {t : Template} {pieces : List Piece} (rest : Spells t pieces) :
      Spells (.lines [String.ofList cs] :: t) (.literal cs :: pieces)
  | line {cs more : List Char} {next : String} {texts : List String} {t : Template}
      {pieces : List Piece} (rest : Spells (.lines (next :: texts) :: t) (.literal more :: pieces)) :
      Spells (.lines (String.ofList cs :: next :: texts) :: t) (.literal (cs ++ '\n' :: more) :: pieces)

theorem Spells.pieces_eq {t : Template} {pieces : List Piece} (h : Spells t pieces) :
    t.pieces = pieces := by
  induction h with
  | nil => rfl
  | blank _ ih => simp [← ih, Template.pieces, Segment.piece]
  | last _ ih => simp [← ih, Template.pieces, Segment.piece, Text.join]
  | line _ ih =>
    unfold Template.pieces at ih ⊢
    rw [List.map_cons, List.cons.injEq] at ih ⊢
    refine ⟨?_, ih.2⟩
    have hmore := Piece.literal.inj ih.1
    simp [← hmore, Segment.piece, Text.join]

/-- The pieces of a packaged stub, computed. -/
def Name.letters : (name : Name) → { pieces : List Piece // name.template.pieces = pieces }
  | .model => ⟨_, Spells.pieces_eq (t := modelTemplate) (by repeat constructor)⟩
  | .repository => ⟨_, Spells.pieces_eq (t := repositoryTemplate) (by repeat constructor)⟩
  | .repositoryRestore => ⟨_, Spells.pieces_eq (t := repositoryRestoreTemplate) (by repeat constructor)⟩
  | .controller => ⟨_, Spells.pieces_eq (t := controllerTemplate) (by repeat constructor)⟩
  | .controllerRestore => ⟨_, Spells.pieces_eq (t := controllerRestoreTemplate) (by repeat constructor)⟩
  | .database => ⟨_, Spells.pieces_eq (t := databaseTemplate) (by repeat constructor)⟩
  | .environment => ⟨_, Spells.pieces_eq (t := environmentTemplate) (by repeat constructor)⟩
  | .router => ⟨_, Spells.pieces_eq (t := routerTemplate) (by repeat constructor)⟩
  | .apache => ⟨_, Spells.pieces_eq (t := apacheTemplate) (by repeat constructor)⟩
  | .nginx => ⟨_, Spells.pieces_eq (t := nginxTemplate) (by repeat constructor)⟩

theorem sound_packaged (name : Name) : name.template.Sound := by
  have hletters : ∀ piece ∈ name.letters.1, piece.Sound := by
    cases name <;> decide +kernel
  refine sound_of_pieces ?_
  rw [name.letters.2]
  exact hletters

end Scaffold.Stub
