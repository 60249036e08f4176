import Mathlib.Data.Set.Basic

/-!
# Drawing on a picture

A drawing turns a picture into a picture, and at each pixel it either sets the colour, whatever
it was, or keeps it. Drawings compose pixel by pixel. Redrawing over an old drawing gives the
same picture as drawing afresh when the new one covers everything that the old one coloured
differently from the background.
-/

namespace Microcar.Core

universe u v

variable {ι : Type u} {κ : Type v}

/-- A drawing acts on pictures. -/
abbrev Drawing (ι : Type u) (κ : Type v) := (ι → κ) → ι → κ

/-- The drawing sets a pixel, whatever it was. -/
def SetsPixel (f : Drawing ι κ) (i : ι) : Prop := ∀ p q, f p i = f q i

/-- The drawing keeps a pixel. -/
def KeepsPixel (f : Drawing ι κ) (i : ι) : Prop := ∀ p, f p i = p i

/-- The drawing sets the pixels of an area and keeps all others. -/
structure Covers (f : Drawing ι κ) (S : Set ι) : Prop where
  /-- Pixels of the area are set. -/
  sets : ∀ i ∈ S, SetsPixel f i
  /-- Other pixels are kept. -/
  keeps : ∀ i ∉ S, KeepsPixel f i

/-- The drawing covers a part of an area. -/
def CoversWithin (f : Drawing ι κ) (S : Set ι) : Prop := ∃ T ⊆ S, Covers f T

/-- Outside of an area the drawing leaves the background alone; elsewhere it may also paint
the background. -/
def LeavesGround (ground : κ) (f : Drawing ι κ) (S : Set ι) : Prop :=
  ∀ p, ∀ i ∉ S, p i = ground → f p i = ground

/-- Drawing nothing covers nothing. -/
theorem covers_id : Covers (id : Drawing ι κ) ∅ :=
  ⟨fun _ hi => absurd hi (Set.notMem_empty _), fun _ _ _ => rfl⟩

/-- A drawing of one colour. -/
theorem covers_of_colour {f : Drawing ι κ} {S : Set ι} {colour : κ}
    (hin : ∀ p, ∀ i ∈ S, f p i = colour) (hout : ∀ p, ∀ i ∉ S, f p i = p i) : Covers f S :=
  ⟨fun i hi p q => (hin p i hi).trans (hin q i hi).symm, fun i hi p => hout p i hi⟩

/-- One drawing behind another. -/
theorem Covers.comp {f g : Drawing ι κ} {S T : Set ι} (hf : Covers f S) (hg : Covers g T) :
    Covers (fun p => g (f p)) (S ∪ T) := by
  constructor
  · intro i hi p q
    by_cases hT : i ∈ T
    · exact hg.sets i hT (f p) (f q)
    · have hS : i ∈ S := hi.resolve_right hT
      dsimp only
      rw [hg.keeps i hT, hg.keeps i hT, hf.sets i hS p q]
  · intro i hi p
    rw [Set.mem_union, not_or] at hi
    dsimp only
    rw [hg.keeps i hi.2, hf.keeps i hi.1]

/-- A drawing inside what is covered already. -/
theorem Covers.comp_within {f g : Drawing ι κ} {S : Set ι} (hf : Covers f S)
    (hg : CoversWithin g S) : Covers (fun p => g (f p)) S := by
  obtain ⟨T, hT, hg⟩ := hg
  have hcomp := hf.comp hg
  rwa [Set.union_eq_left.mpr hT] at hcomp

/-- What covers an area covers a part of a larger one. -/
theorem Covers.within {f : Drawing ι κ} {S T : Set ι} (hf : Covers f S) (hST : S ⊆ T) :
    CoversWithin f T := ⟨S, hST, hf⟩

/-- A part of an area is a part of a larger one. -/
theorem CoversWithin.mono {f : Drawing ι κ} {S T : Set ι} (hf : CoversWithin f S) (hST : S ⊆ T) :
    CoversWithin f T := by
  obtain ⟨U, hU, hf⟩ := hf
  exact hf.within (hU.trans hST)

/-- Drawing nothing covers a part of any area. -/
theorem coversWithin_id (S : Set ι) : CoversWithin (id : Drawing ι κ) S :=
  covers_id.within (Set.empty_subset S)

/-- Two drawings within an area stay within it. -/
theorem CoversWithin.comp {f g : Drawing ι κ} {S : Set ι} (hf : CoversWithin f S)
    (hg : CoversWithin g S) : CoversWithin (fun p => g (f p)) S := by
  obtain ⟨T, hT, hf⟩ := hf
  obtain ⟨U, hU, hg⟩ := hg
  exact (hf.comp hg).within (Set.union_subset hT hU)

/-- A loop whose rounds all stay within an area stays there. -/
theorem CoversWithin.foldl {α : Type*} {draw : (ι → κ) → α → ι → κ} {S : Set ι} {l : List α}
    (h : ∀ a ∈ l, CoversWithin (fun p => draw p a) S) :
    CoversWithin (fun p => l.foldl draw p) S := by
  induction l with
  | nil => exact coversWithin_id S
  | cons a l ih =>
    have hhead := h a List.mem_cons_self
    exact hhead.comp (ih fun b hb => h b (List.mem_cons_of_mem a hb))

/-- A pixel behind a drawing depends on that pixel alone. -/
theorem Covers.congr {f : Drawing ι κ} {S : Set ι} (hf : Covers f S) {p q : ι → κ} {i : ι}
    (h : p i = q i) : f p i = f q i := by
  by_cases hi : i ∈ S
  · exact hf.sets i hi p q
  · rw [hf.keeps i hi, hf.keeps i hi, h]

/-- Pixels outside of the area are kept. -/
theorem CoversWithin.keeps {f : Drawing ι κ} {S : Set ι} (hf : CoversWithin f S) {i : ι}
    (hi : i ∉ S) : KeepsPixel f i := by
  obtain ⟨T, hT, hf⟩ := hf
  exact hf.keeps i fun hiT => hi (hT hiT)

/-- So the background outside of the area is left alone. -/
theorem CoversWithin.leavesGround {f : Drawing ι κ} {S : Set ι} (hf : CoversWithin f S)
    (ground : κ) : LeavesGround ground f S := by
  intro p i hi hp
  rw [hf.keeps hi, hp]

/-- Two drawings that leave the background alone do so in turn. -/
theorem LeavesGround.comp {ground : κ} {f g : Drawing ι κ} {S : Set ι}
    (hf : LeavesGround ground f S) (hg : LeavesGround ground g S) :
    LeavesGround ground (fun p => g (f p)) S :=
  fun p i hi hp => hg (f p) i hi (hf p i hi hp)

/-- Outside of a larger area there is less to leave alone. -/
theorem LeavesGround.mono {ground : κ} {f : Drawing ι κ} {S T : Set ι}
    (hf : LeavesGround ground f S) (hST : S ⊆ T) : LeavesGround ground f T :=
  fun p i hi hp => hf p i (fun hiS => hi (hST hiS)) hp

/-- A drawing that covers everything the old one left besides the background erases it. -/
theorem Covers.redraw {ground : κ} {new old : Drawing ι κ} {S : Set ι} (hnew : Covers new S)
    (hold : LeavesGround ground old S) {p : ι → κ} {i : ι} (hp : p i = ground) :
    new (old p) i = new p i := by
  by_cases hi : i ∈ S
  · exact hnew.sets i hi (old p) p
  · rw [hnew.keeps i hi, hnew.keeps i hi, hold p i hi hp, hp]

end Microcar.Core
