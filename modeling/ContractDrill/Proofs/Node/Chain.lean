import ContractDrill.Node.Command
import ContractDrill.Proofs.Answer.Printed
import Mathlib.Data.List.Pairwise

/-!
# Chains

A chain keeps the contracts of each code in the order in which they were made.  It gives a fresh
address to each contract that is made, and lists all contracts of a code when it is asked for them
(`Chain.Answers`); `Chain.Serves` joins its answers to a history of exchanges with any number of
runs.

What a history adds to a chain is made by the runs in it (`Serves.exists_new`), and no two contracts
share an address if a run made one of them (`Serves.apart`).  So a run owns the latest contract
exactly if nobody has made one behind its own (`owns_last_iff`).
-/

namespace ContractDrill

/-- A contract of a chain.  The contracts that were there before all runs have no maker. -/
structure Contract (ι : Type) where
  address : String
  maker : Option ι

/-- The contracts have different addresses, unless both were there before all runs. -/
def Contract.Apart {ι : Type} (first second : Contract ι) : Prop :=
  first.maker ≠ none ∨ second.maker ≠ none → first.address ≠ second.address

instance {ι : Type} : Std.Symm (@Contract.Apart ι) where
  symm _ _ h hmade := (h hmade.symm).symm

/-- The contracts of each code, in the order in which they were made. -/
abbrev Chain (ι : Type) := Int → List (Contract ι)

/-- The exchange made a contract of the code. -/
def Exchange.Makes (codeId : Int) (exchange : Exchange) : Prop :=
  (∃ message sender label noAdmin,
      exchange.command = .instantiate codeId message sender label noAdmin) ∧
    ∃ output errors, exchange.reply = .finished 0 output errors

theorem Exchange.Makes.codeId_eq {exchange : Exchange} {codeId codeId' : Int}
    (h : exchange.Makes codeId) (h' : exchange.Makes codeId') : codeId = codeId' := by
  obtain ⟨⟨message, sender, label, noAdmin, hcommand⟩, -⟩ := h
  obtain ⟨⟨message', sender', label', noAdmin', hcommand'⟩, -⟩ := h'
  rw [hcommand] at hcommand'
  exact (NodeCommand.instantiate.inj hcommand').1

namespace Chain

variable {ι : Type}

/-- The chain with one more contract of a code. -/
def make (chain : Chain ι) (codeId : Int) (contract : Contract ι) : Chain ι :=
  fun code => if code = codeId then chain code ++ [contract] else chain code

/-- The run owns the address: it is that of a contract of the code that the run made. -/
def Owns (chain : Chain ι) (codeId : Int) (runner : ι) (address : String) : Prop :=
  ∃ contract ∈ chain codeId, contract.maker = some runner ∧ contract.address = address

/-- What an exchange with a run does to the chain.  A contract that is made gets a fresh address and
comes last.  A listing that goes well has the addresses of all contracts of its code.  Whatever else
the chain replies is left open. -/
inductive Answers (chain : Chain ι) (runner : ι) (exchange : Exchange) : Chain ι → Prop
  | made {codeId : Int} {address : String} (hmakes : exchange.Makes codeId)
      (hfresh : ∀ code, ∀ contract ∈ chain code, contract.address ≠ address) :
      Answers chain runner exchange (chain.make codeId ⟨address, some runner⟩)
  | other (hmakes : ∀ codeId, ¬exchange.Makes codeId)
      (hlists : ∀ codeId output errors, exchange.command = .listContracts codeId →
        exchange.reply = .finished 0 output errors →
        ContractAddress.IsListing ((chain codeId).map Contract.address) output) :
      Answers chain runner exchange chain

/-- What a history of exchanges with several runs does to the chain. -/
inductive Serves : Chain ι → List (ι × Exchange) → Chain ι → Prop
  | nil (chain : Chain ι) : Serves chain [] chain
  | cons {chain between final : Chain ι} {runner : ι} {exchange : Exchange}
      {history : List (ι × Exchange)} (h : chain.Answers runner exchange between)
      (hrest : Serves between history final) : Serves chain ((runner, exchange) :: history) final

section

variable {chain between final : Chain ι} {history history' : List (ι × Exchange)} {codeId : Int}

theorem serves_cons_iff {runner : ι} {exchange : Exchange} :
    Serves chain ((runner, exchange) :: history) final ↔
      ∃ between, chain.Answers runner exchange between ∧ Serves between history final := by
  constructor
  · intro h
    cases h with
    | cons h hrest => exact ⟨_, h, hrest⟩
  · rintro ⟨between, h, hrest⟩
    exact .cons h hrest

/-- A history is served in two parts, with some chain in between. -/
theorem serves_append_iff :
    Serves chain (history ++ history') final ↔
      ∃ between, Serves chain history between ∧ Serves between history' final := by
  induction history generalizing chain with
  | nil =>
    constructor
    · intro h
      exact ⟨chain, .nil chain, h⟩
    · rintro ⟨between, hnil, h⟩
      cases hnil
      exact h
  | cons entry history ih =>
    constructor
    · intro h
      obtain ⟨first, hfirst, hrest⟩ := serves_cons_iff.mp h
      obtain ⟨between, hhistory, hhistory'⟩ := ih.mp hrest
      exact ⟨between, .cons hfirst hhistory, hhistory'⟩
    · rintro ⟨between, h, hrest⟩
      obtain ⟨first, hfirst, hhistory⟩ := serves_cons_iff.mp h
      exact .cons hfirst (ih.mpr ⟨between, hhistory, hrest⟩)

/-- A history adds contracts of a code exactly if one is made in it, and all that it adds are made
by its runs. -/
theorem Serves.exists_new (h : Serves chain history final) (codeId : Int) :
    ∃ new, final codeId = chain codeId ++ new ∧
      (new = [] ↔ ∀ entry ∈ history, ¬entry.2.Makes codeId) ∧
      ∀ contract ∈ new, ∃ entry ∈ history, contract.maker = some entry.1 := by
  -- The contract that the first exchange makes stands in front of those of the others.
  induction h with
  | nil chain => exact ⟨[], by simp⟩
  | @cons chain between final runner exchange history h hrest ih =>
    obtain ⟨new, hfinal, hnew, hmakers⟩ := ih
    cases h with
    | @made code address hmakes hfresh =>
      by_cases hcode : codeId = code
      · subst hcode
        refine ⟨⟨address, some runner⟩ :: new, ?_, ?_, ?_⟩
        · rw [hfinal, make, if_pos rfl, List.append_assoc]
          rfl
        · refine iff_of_false (List.cons_ne_nil _ _) fun hnone => ?_
          exact hnone (runner, exchange) List.mem_cons_self hmakes
        · intro contract hmem
          rcases List.mem_cons.mp hmem with rfl | hmem
          · exact ⟨(runner, exchange), List.mem_cons_self, rfl⟩
          · obtain ⟨entry, hentry, hmaker⟩ := hmakers contract hmem
            exact ⟨entry, List.mem_cons_of_mem _ hentry, hmaker⟩
      · -- The contract is one of another code.
        have hother : ¬exchange.Makes codeId := fun h => hcode (h.codeId_eq hmakes)
        refine ⟨new, ?_, ?_, ?_⟩
        · rw [hfinal, make, if_neg hcode]
        · rw [hnew, List.forall_mem_cons]
          exact ⟨fun hnone => ⟨hother, hnone⟩, And.right⟩
        · intro contract hmem
          obtain ⟨entry, hentry, hmaker⟩ := hmakers contract hmem
          exact ⟨entry, List.mem_cons_of_mem _ hentry, hmaker⟩
    | other hmakes hlists =>
      refine ⟨new, hfinal, ?_, ?_⟩
      · rw [hnew, List.forall_mem_cons]
        exact ⟨fun hnone => ⟨hmakes codeId, hnone⟩, And.right⟩
      · intro contract hmem
        obtain ⟨entry, hentry, hmaker⟩ := hmakers contract hmem
        exact ⟨entry, List.mem_cons_of_mem _ hentry, hmaker⟩

/-- What holds contracts apart is kept, since each address is fresh. -/
theorem Serves.apart (h : Serves chain history final)
    (hd : (chain codeId).Pairwise Contract.Apart) :
    (final codeId).Pairwise Contract.Apart := by
  induction h with
  | nil chain => exact hd
  | cons h hrest ih =>
    apply ih
    cases h with
    | @made code address hmakes hfresh =>
      unfold make
      -- Only the list of the code that is made from gets longer.
      split
      · apply List.pairwise_append.mpr
        refine ⟨hd, List.pairwise_singleton _ _, ?_⟩
        intro first hfirst second hsecond _
        rw [List.mem_singleton.mp hsecond]
        exact hfresh codeId first hfirst
      · exact hd
    | other hmakes hlists => exact hd

/-- Nobody else made a contract at the address of one that a run made. -/
theorem maker_eq_of_apart {contracts : List (Contract ι)} (hd : contracts.Pairwise Contract.Apart)
    {first second : Contract ι} (hfirst : first ∈ contracts) (hsecond : second ∈ contracts)
    (hmaker : first.maker ≠ none) (haddress : first.address = second.address) :
    first.maker = second.maker := by
  by_cases heq : first = second
  · rw [heq]
  · have happart : first.Apart second := hd.forall hfirst hsecond heq
    exact absurd haddress (happart (.inl hmaker))

/-- A run owns the latest contract exactly if nobody has made one since the run made its own. -/
theorem owns_last_iff {begun own before : Chain ι} {runner : ι} {made : Exchange}
    {middle later : List (ι × Exchange)} {last : Contract ι}
    (hapart : (begun codeId).Pairwise Contract.Apart) (hmakes : made.Makes codeId)
    (hmade : begun.Answers runner made own) (hmiddle : Serves own middle before)
    (hothers : ∀ entry ∈ middle, entry.1 ≠ runner) (hlater : Serves before later final)
    (hlast : (before codeId).getLast? = some last) :
    final.Owns codeId runner last.address ↔ ∀ entry ∈ middle, ¬entry.2.Makes codeId := by
  have hfinalApart : (final codeId).Pairwise Contract.Apart :=
    Serves.apart (.cons hmade (serves_append_iff.mpr ⟨before, hmiddle, hlater⟩)) hapart
  obtain ⟨new, hbefore, hnew, hmakers⟩ := hmiddle.exists_new codeId
  obtain ⟨more, hfinal, -, -⟩ := hlater.exists_new codeId
  have hmem : last ∈ final codeId := by
    rw [hfinal]
    exact List.mem_append_left _ (List.mem_of_getLast? hlast)
  -- Nobody has made one behind it just if there are no new ones behind it.
  rw [← hnew]
  cases hmade with
  | other hmakes' hlists => exact absurd hmakes (hmakes' codeId)
  | @made code address hmakes' hfresh =>
    obtain rfl := hmakes.codeId_eq hmakes'
    rw [make, if_pos rfl] at hbefore
    rw [hbefore, List.getLast?_append] at hlast
    constructor
    · rintro ⟨contract, hcontract, hmaker, haddress⟩
      by_contra hne
      -- The latest contract is one of the new ones, which others made.
      have hlastNew : last ∈ new := by
        rw [List.getLast?_eq_some_getLast hne, Option.some_or] at hlast
        rw [← Option.some.inj hlast]
        exact List.getLast_mem hne
      obtain ⟨entry, hentry, hother⟩ := hmakers last hlastNew
      have hsome : contract.maker ≠ none := by
        rw [hmaker]
        exact Option.some_ne_none _
      have hmakerEq := maker_eq_of_apart hfinalApart hcontract hmem hsome haddress
      rw [hmaker, hother] at hmakerEq
      exact hothers entry hentry (Option.some.inj hmakerEq).symm
    · rintro rfl
      rw [List.getLast?_nil, Option.none_or, List.getLast?_concat] at hlast
      obtain rfl := Option.some.inj hlast
      exact ⟨_, hmem, rfl, rfl⟩

end

end Chain

end ContractDrill
