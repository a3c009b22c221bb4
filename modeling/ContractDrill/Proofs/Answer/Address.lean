import ContractDrill.Answer.ContractAddress
import ContractDrill.Proofs.Json.Wire
import ContractDrill.Proofs.Schema.Acceptance

/-!
# Resolving the address of a contract

Every answer is one of four things.  It lists contracts, the last of them with an address, which is
then the one that is taken; or it is malformed, or lists none, or ends its list in the empty text,
and for each of these there is an error (`ContractAddress.read_classified`).

What an answer lists is told by the decoder and by one member of the object that it decodes to
(`Lists`, `ListsNothing`).
-/

namespace ContractDrill

open Schema

/-! ### Listings -/

/-- A listing is given by an object, and by its member `contracts` alone. -/
theorem ContractListing.ofJson_eq_valid_iff {value : Json} {listing : ContractListing} :
    ofJson value = .valid listing ↔
      ∃ members, value = .object members ∧
        optional "contracts" none (nullable (list text)) members = .valid listing.contracts := by
  simp only [ofJson, record_eq_valid_iff, Verdict.map_eq_valid_iff]
  constructor
  · rintro ⟨members, rfl, contracts, hcontracts, rfl⟩
    exact ⟨members, rfl, hcontracts⟩
  · rintro ⟨members, rfl, hcontracts⟩
    exact ⟨members, rfl, listing.contracts, hcontracts, rfl⟩

namespace ContractAddress

/-- The text is an object whose contracts are these addresses. -/
def Lists (text : String) (addresses : List String) : Prop :=
  ∃ members, Json.decode .strict text = .ok (.object members) ∧
    members.lookup "contracts" = some (texts addresses)

/-- The text is an object without contracts, or with `null` in their place. -/
def ListsNothing (text : String) : Prop :=
  ∃ members, Json.decode .strict text = .ok (.object members) ∧
    (members.lookup "contracts" = none ∨ members.lookup "contracts" = some .null)

variable {text : String}

/-- A listing is read from the one member that counts; it may be missing or `null`. -/
theorem readListing_eq_valid_iff {listing : ContractListing} :
    readListing text = .valid listing ↔
      ∃ members, Json.decode .strict text = .ok (.object members) ∧
        optional "contracts" none (nullable (list Schema.text)) members =
          .valid listing.contracts := by
  unfold readListing
  split
  · rename_i hdecode
    simp [hdecode, ContractListing.ofJson_eq_valid_iff]
  · rename_i hdecode
    simp [hdecode]

theorem readListing_eq_some_iff {addresses : List String} :
    readListing text = .valid ⟨some addresses⟩ ↔ Lists text addresses := by
  simp only [readListing_eq_valid_iff, Lists, optional_eq_valid_iff, nullable_eq_valid_iff,
    list_text_eq_valid_iff, Json.Members.get?]
  refine exists_congr fun members => and_congr_right fun _ => ?_
  constructor
  · rintro (⟨-, hnone⟩ | ⟨value, hlookup, ⟨-, hnone⟩ | ⟨-, listed, rfl, hlisted⟩⟩)
    · cases hnone
    · cases hnone
    · obtain rfl := Option.some.inj hlisted
      exact hlookup
  · intro hlookup
    exact .inr ⟨_, hlookup, .inr ⟨Json.noConfusion, addresses, rfl, rfl⟩⟩

theorem readListing_eq_none_iff : readListing text = .valid ⟨none⟩ ↔ ListsNothing text := by
  simp only [readListing_eq_valid_iff, ListsNothing, optional_eq_valid_iff, nullable_eq_valid_iff,
    Json.Members.get?]
  refine exists_congr fun members => and_congr_right fun _ => ?_
  simp

/-! ### The latest contract -/

/-- Of a list that ends somewhere, only the last text counts. -/
theorem latest_some_of_getLast? {addresses : List String} {address : String}
    (hlast : addresses.getLast? = some address) :
    latest ⟨some addresses⟩ = if address = "" then .error .emptyAddress else .ok address := by
  unfold latest
  rw [Option.getD_some, hlast]

theorem read_of_lists {addresses : List String} {address : String} (h : Lists text addresses)
    (hlast : addresses.getLast? = some address) :
    read text = if address = "" then .error .emptyAddress else .ok address := by
  rw [read, readListing_eq_some_iff.mpr h]
  exact latest_some_of_getLast? hlast

theorem read_of_listsNothing (h : ListsNothing text ∨ Lists text []) :
    read text = .error .noContracts := by
  rcases h with h | h
  · rw [read, readListing_eq_none_iff.mpr h]
    rfl
  · rw [read, readListing_eq_some_iff.mpr h]
    rfl

theorem exists_malformed_of_lists_nowhere (hnothing : ¬ListsNothing text)
    (hlists : ∀ addresses, ¬Lists text addresses) :
    ∃ issues, read text = .error (.malformed issues) := by
  unfold read
  cases hlisting : readListing text with
  | invalid issues => exact ⟨issues, rfl⟩
  | valid listing =>
    obtain ⟨_ | addresses⟩ := listing
    · exact absurd (readListing_eq_none_iff.mp hlisting) hnothing
    · exact absurd (readListing_eq_some_iff.mp hlisting) (hlists addresses)

/-- What may be read from a text, each time with what the text is as a listing. -/
inductive Reads (text : String) : Except Error String → Prop where
  | latest {addresses : List String} {address : String} (hlists : Lists text addresses)
      (hlast : addresses.getLast? = some address) (hempty : address ≠ "") :
      Reads text (.ok address)
  | emptyAddress {addresses : List String} (hlists : Lists text addresses)
      (hlast : addresses.getLast? = some "") : Reads text (.error .emptyAddress)
  | noContracts (h : ListsNothing text ∨ Lists text []) : Reads text (.error .noContracts)
  | malformed {issues : List Issue} (hnothing : ¬ListsNothing text)
      (hlists : ∀ addresses, ¬Lists text addresses) : Reads text (.error (.malformed issues))

/-- An answer with a list is read as one of the rules says. -/
theorem reads_of_lists {addresses : List String} (h : Lists text addresses) :
    Reads text (read text) := by
  -- Only the last text decides between the three rules for a list.
  cases hlast : addresses.getLast? with
  | none =>
    obtain rfl := List.getLast?_eq_none_iff.mp hlast
    rw [read_of_listsNothing (.inr h)]
    exact .noContracts (.inr h)
  | some address =>
    rw [read_of_lists h hlast]
    split
    · rename_i hempty
      subst hempty
      exact .emptyAddress h hlast
    · rename_i hempty
      exact .latest h hlast hempty

/-- The rules leave no answer out. -/
theorem reads_read (text : String) : Reads text (read text) := by
  by_cases hlists : ∃ addresses, Lists text addresses
  · obtain ⟨addresses, hlists⟩ := hlists
    exact reads_of_lists hlists
  · have hnowhere := not_exists.mp hlists
    by_cases hnothing : ListsNothing text
    · rw [read_of_listsNothing (.inl hnothing)]
      exact .noContracts (.inl hnothing)
    · obtain ⟨issues, hread⟩ := exists_malformed_of_lists_nowhere hnothing hnowhere
      rw [hread]
      exact .malformed hnothing hnowhere

theorem reads_of_read_eq {result : Except Error String} (h : read text = result) :
    Reads text result :=
  h ▸ reads_read text

theorem read_eq_ok_iff {address : String} :
    read text = .ok address ↔
      ∃ addresses, Lists text addresses ∧ addresses.getLast? = some address ∧ address ≠ "" := by
  constructor
  · intro h
    cases reads_of_read_eq h with
    | latest hlists hlast hempty => exact ⟨_, hlists, hlast, hempty⟩
  · rintro ⟨addresses, hlists, hlast, hempty⟩
    exact (read_of_lists hlists hlast).trans (if_neg hempty)

theorem read_eq_noContracts_iff :
    read text = .error .noContracts ↔ ListsNothing text ∨ Lists text [] := by
  refine ⟨fun h => ?_, read_of_listsNothing⟩
  cases reads_of_read_eq h with
  | noContracts hnothing => exact hnothing

theorem read_eq_emptyAddress_iff :
    read text = .error .emptyAddress ↔
      ∃ addresses, Lists text addresses ∧ addresses.getLast? = some "" := by
  constructor
  · intro h
    cases reads_of_read_eq h with
    | emptyAddress hlists hlast => exact ⟨_, hlists, hlast⟩
  · rintro ⟨addresses, hlists, hlast⟩
    exact read_of_lists hlists hlast

/-- An answer is malformed just if it neither lists texts nor lists nothing. -/
theorem exists_malformed_iff :
    (∃ issues, read text = .error (.malformed issues)) ↔
      ¬ListsNothing text ∧ ∀ addresses, ¬Lists text addresses := by
  refine ⟨fun ⟨issues, h⟩ => ?_, fun h => exists_malformed_of_lists_nowhere h.1 h.2⟩
  cases reads_of_read_eq h with
  | malformed hnothing hlists => exact ⟨hnothing, hlists⟩

theorem lists_of_isTextOf {members : Json.Members} {addresses : List String}
    (hfits : Json.Fits .strict Json.Limits.strict.depth (.object members))
    (htext : (Json.object members).IsTextOf text)
    (hcontracts : members.lookup "contracts" = some (texts addresses)) : Lists text addresses :=
  ⟨members, Json.decode_of_isTextOf .strict hfits htext, hcontracts⟩

/-- **Every text is classified.**  An address is read from exactly the texts that list contracts and
have it, not empty, as the last one; of each other text it is said what is wrong: that it lists no
contracts, that the last one has no address, or that it is no listing.  In particular the text of an
object within the limits of the reader is a listing, whatever else the object holds. -/
theorem read_classified (text : String) :
    (∀ address, read text = .ok address ↔
      ∃ addresses, Lists text addresses ∧ addresses.getLast? = some address ∧ address ≠ "") ∧
    (read text = .error .noContracts ↔ ListsNothing text ∨ Lists text []) ∧
    (read text = .error .emptyAddress ↔
      ∃ addresses, Lists text addresses ∧ addresses.getLast? = some "") ∧
    ((∃ issues, read text = .error (.malformed issues)) ↔
      ¬ListsNothing text ∧ ∀ addresses, ¬Lists text addresses) ∧
    (∀ members addresses address, Json.Fits .strict Json.Limits.strict.depth (.object members) →
      (Json.object members).IsTextOf text →
      members.lookup "contracts" = some (texts addresses) →
      addresses.getLast? = some address → address ≠ "" → read text = .ok address) := by
  refine ⟨fun address => read_eq_ok_iff, read_eq_noContracts_iff, read_eq_emptyAddress_iff,
    exists_malformed_iff, ?_⟩
  intro members addresses address hfits htext hcontracts hlast hempty
  have hlists := lists_of_isTextOf hfits htext hcontracts
  exact read_eq_ok_iff.mpr ⟨addresses, hlists, hlast, hempty⟩

/-- The listing of a code that was used twice, with a member that is no part of it. -/
def secondListing : Json.Members :=
  [("contracts", texts ["juno1first", "juno1second"]),
    ("pagination", .object [("total", .integer 2)])]

theorem read_secondListing : read (Json.object secondListing).encode = .ok "juno1second" := by
  have hfits : Json.Fits .strict 2 (.object secondListing) := by
    have hnumeral : FitsNumeral 2 := by decide
    simp [secondListing, texts, hnumeral]
  exact (read_classified _).2.2.2.2 secondListing ["juno1first", "juno1second"] "juno1second"
    (hfits.mono (by decide)) (Json.isTextOf_encode _) rfl rfl (by decide)

end ContractAddress

end ContractDrill
