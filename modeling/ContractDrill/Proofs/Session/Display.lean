import ContractDrill.Proofs.Screen.Literal
import ContractDrill.Proofs.Session.Closing

/-!
# What reports show of their values

The banner, the beginning of a step and the line with the address put values between tags as they
are.  They show them as they are just if all of them are literal (`displays_banner_iff`,
`displays_stepStart_iff`, `displays_contractResolved_iff`).
-/

namespace ContractDrill

open Markup

namespace Report

/-! ### Pieces of the reports -/

/-- A plain text without a colon, or any text in a style of the reports. -/
def IsStyled : Piece → Prop
  | .text s => Plain s ∧ ':' ∉ s.toList
  | .styled style _ => style ∈ styles

instance : DecidablePred IsStyled
  | .text s => inferInstanceAs (Decidable (Plain s ∧ ':' ∉ s.toList))
  | .styled style _ => inferInstanceAs (Decidable (style ∈ styles))

/-- What passes for styled is framed by its tags, and its style has no weight. -/
theorem framed_of_isStyled {piece : Piece} (h : IsStyled piece) : piece.IsFramed := by
  cases piece with
  | text s => exact h
  | styled style s =>
    have hall : styles.all (fun style => weight style.toList = 0) = true := by decide
    exact ⟨isStyle_of_mem h, by simpa using List.all_eq_true.mp hall style h⟩

theorem isDropped_of_isNumeric {c : Char} (h : IsNumeric c) : isDropped c = false := by
  rcases h with hdigit | rfl | rfl | rfl | rfl
  · have hlow := (Char.isDigit_iff_toNat.mp hdigit).1
    have hzero : '0'.toNat = 48 := rfl
    simp only [isDropped, List.mem_cons, List.not_mem_nil, decide_eq_false_iff_not, or_false]
    omega
  all_goals decide

/-- A number is shown as it is. -/
theorem isLiteral_toString (n : Int) : IsLiteral (toString n).toList := by
  have hnumeric (c : Char) (hc : c ∈ (toString n).toList) : IsNumeric c := by
    rw [toList_toString] at hc
    exact allNumeric_integerLiteral n c hc
  refine .of_isPlain (plain_toString n) (fun c hc => isDropped_of_isNumeric (hnumeric c hc)) ?_
  have hcolon : ':' ∉ (toString n).toList := fun hmem => absurd (hnumeric _ hmem) (by decide)
  rw [List.count_eq_zero.mpr hcolon]
  decide

/-! ### What is shown -/

/-- The report is shown to its end in every width, and the markup of each row of pieces is read as
the texts that the pieces were written for. -/
structure Displays (report : Report) (rows : List (List Piece)) : Prop where
  ends : ∀ width, (report.present width).2 = none
  reads : ∀ pieces ∈ rows, ∃ styled, read (markupOf pieces).toList = .ok styled ∧
    styled.text = pieces.flatMap Piece.content

/-- The texts of all pieces are literal. -/
def AllLiteral (pieces : List Piece) : Prop :=
  ∀ piece ∈ pieces, IsLiteral piece.content

/-- A report in pieces displays its rows just if they are literal, as long as it is shown at all
then. -/
theorem displays_iff {report : Report} {rows : List (List Piece)}
    (hstyled : ∀ pieces ∈ rows, ∀ piece ∈ pieces, IsStyled piece)
    (hlegible : (∀ pieces ∈ rows, ∀ piece ∈ pieces, piece.Shows piece.content) → Legible report) :
    Displays report rows ↔ ∀ pieces ∈ rows, AllLiteral pieces := by
  have hframed (pieces : List Piece) (hpieces : pieces ∈ rows) (piece : Piece)
      (hpiece : piece ∈ pieces) := framed_of_isStyled (hstyled pieces hpieces piece hpiece)
  -- A row of pieces is read as it is written just if all of them are literal.
  have hreads (pieces : List Piece) (hpieces : pieces ∈ rows) :=
    shows_pieces_iff (hframed pieces hpieces)
  constructor
  · intro h pieces hpieces
    refine (hreads pieces hpieces).mp ?_
    have hread := h.reads pieces hpieces
    rwa [markupOf, String.toList_ofList] at hread
  · intro h
    refine ⟨snd_present_of_legible (hlegible fun pieces hpieces piece hpiece => ?_),
      fun pieces hpieces => ?_⟩
    · exact (hframed pieces hpieces piece hpiece).shows (h pieces hpieces piece hpiece)
    · rw [markupOf, String.toList_ofList]
      exact (hreads pieces hpieces).mpr (h pieces hpieces)

/-! ### The reports -/

/-- Of the banner only the node and the chain may have markup. -/
theorem allLiteral_bannerPieces_iff (settings : Settings) :
    AllLiteral (bannerPieces settings) ↔
      IsLiteral settings.node.toList ∧ IsLiteral settings.chainId.toList := by
  simp only [AllLiteral, bannerPieces, List.forall_mem_cons, List.not_mem_nil, false_imp_iff,
    implies_true, and_true, Piece.content]
  constructor
  · rintro ⟨-, -, -, -, -, -, hnode, -, -, -, hchain, -⟩
    exact ⟨hnode, hchain⟩
  · rintro ⟨hnode, hchain⟩
    have hspace : IsLiteral " ".toList := .of_all (by decide)
    have hfeed : IsLiteral "\n".toList := .of_all (by decide)
    exact ⟨.of_all (by decide), hfeed, .of_all (by decide), .of_all (by decide),
      .of_all (by decide), hspace, hnode, hfeed, .of_all (by decide), hspace, hchain, hfeed,
      .of_all (by decide), hspace, isLiteral_toString _⟩

/-- The banner displays its node and its chain just if they are literal. -/
theorem displays_banner_iff (settings : Settings) :
    Displays (banner settings) [bannerPieces settings] ↔
      IsLiteral settings.node.toList ∧ IsLiteral settings.chainId.toList := by
  have hstyled : ∀ piece ∈ bannerPieces settings, IsStyled piece := of_decide_eq_true rfl
  rw [displays_iff (List.forall_mem_singleton.mpr hstyled), List.forall_mem_singleton,
    allLiteral_bannerPieces_iff]
  exact fun h => legible_banner_of_shows (List.forall_mem_singleton.mp h)

theorem displays_stepStart_iff (name description : String) :
    Displays (stepStart name description) [titlePieces name, descriptionPieces description] ↔
      IsLiteral (upperCase name.toList) ∧ IsLiteral description.toList := by
  have htitle : ∀ piece ∈ titlePieces name, IsStyled piece := of_decide_eq_true rfl
  have hdescription : ∀ piece ∈ descriptionPieces description, IsStyled piece :=
    of_decide_eq_true rfl
  have hrows : ∀ pieces ∈ [titlePieces name, descriptionPieces description],
      ∀ piece ∈ pieces, IsStyled piece :=
    List.forall_mem_cons.mpr ⟨htitle, List.forall_mem_singleton.mpr hdescription⟩
  have hindent : IsLiteral "  ".toList := .of_all (by decide)
  rw [displays_iff hrows]
  · simp only [AllLiteral, titlePieces, descriptionPieces, List.forall_mem_cons, List.not_mem_nil,
      false_imp_iff, implies_true, and_true, Piece.content, String.toList_ofList, hindent,
      true_and]
  · intro h
    obtain ⟨hname, hline⟩ := List.forall_mem_cons.mp h
    exact legible_stepStart_of_shows hname (List.forall_mem_singleton.mp hline)

theorem displays_contractResolved_iff (address : String) :
    Displays (contractResolved address) [addressPieces address] ↔ IsLiteral address.toList := by
  have hstyled : ∀ piece ∈ addressPieces address, IsStyled piece := of_decide_eq_true rfl
  have hindent : IsLiteral "  ".toList := .of_all (by decide)
  have hmark : IsLiteral "✓ Contract address".toList := .of_all (by decide)
  rw [displays_iff (List.forall_mem_singleton.mpr hstyled), List.forall_mem_singleton]
  · simp only [AllLiteral, addressPieces, List.forall_mem_cons, List.not_mem_nil, false_imp_iff,
      implies_true, and_true, Piece.content, hindent, hmark, true_and]
  · exact fun h => legible_contractResolved_of_shows (List.forall_mem_singleton.mp h)

theorem displays_completed_iff (contract : String) :
    Displays (completed contract) [completedPieces contract] ↔ IsLiteral contract.toList := by
  have hstyled : ∀ piece ∈ completedPieces contract, IsStyled piece := of_decide_eq_true rfl
  have hspace : IsLiteral " ".toList := .of_all (by decide)
  have hopening : IsLiteral "All steps completed against".toList := .of_all (by decide)
  rw [displays_iff (List.forall_mem_singleton.mpr hstyled), List.forall_mem_singleton]
  · simp only [AllLiteral, completedPieces, List.forall_mem_cons, List.not_mem_nil, false_imp_iff,
      implies_true, and_true, Piece.content, hspace, hopening, true_and]
  · exact fun h => legible_completed_of_shows (List.forall_mem_singleton.mp h)

end Report

end ContractDrill
