import ContractDrill.Answer.ChainHead
import ContractDrill.Answer.ContractAddress
import ContractDrill.Answer.ContractAnswer
import ContractDrill.Proofs.Calendar.Timestamp
import ContractDrill.Proofs.Json.RoundTrip

/-!
# What a node prints

Listings, slots and chain heads are read back from what a node prints for them.  It may put more
into a listing (`ContractAddress.IsListing`), write an integer as such or as its text
(`IsInteger`), wrap an answer or not (`SlotHashes.IsAnswer`), and print a status where errors go
(`ChainHead.Prints`); none of this changes what is read.
-/

namespace ContractDrill

open Schema

/-- The value is an integer, or the text of one. -/
def IsInteger (n : Int) (value : Json) : Prop :=
  value = .integer n ∨ value = .string (toString n)

theorem IsInteger.fits {n : Int} {value : Json} (h : IsInteger n value) (hn : FitsNumeral n)
    (depth : Nat) : Json.Fits .usual depth value := by
  rcases h with rfl | rfl
  · exact .integer hn
  · exact .string _

theorem IsInteger.integer_eq {n : Int} {value : Json} (h : IsInteger n value)
    (hn : FitsSigned n) : integer value = .valid n := by
  rcases h with rfl | rfl
  · rfl
  · rw [integer, readWhole_toString hn.fitsNumeral]

/-! ### Listings -/

/-- A list of texts needs one bracket. -/
theorem fits_texts (limits : Json.Limits) (values : List String) :
    Json.Fits limits 1 (texts values) := by
  refine .array fun item hitem => ?_
  obtain ⟨value, -, rfl⟩ := List.mem_map.mp hitem
  exact .string value

namespace ContractAddress

/-- The output lists the addresses: it is the text of an object that has them, in their order, as
its contracts. -/
def IsListing (addresses : List String) (output : Option String) : Prop :=
  ∃ members text, output = some text ∧ (Json.object members).IsTextOf text ∧
    Json.Fits .strict Json.Limits.strict.depth (.object members) ∧
    members.lookup "contracts" = some (texts addresses)

/-- The address that is read from a listing is the last one listed. -/
theorem getLast?_of_readCaptured {addresses : List String} {output : Option String}
    {address : String} (h : IsListing addresses output)
    (hread : readCaptured output = .ok address) : addresses.getLast? = some address := by
  obtain ⟨members, text, rfl, htext, hfits, hcontracts⟩ := h
  have hdecode : Json.decode .strict text = .ok (.object members) :=
    Json.decode_of_isTextOf .strict hfits htext
  have hnullable : nullable (list Schema.text) (texts addresses) = .valid (some addresses) :=
    congrArg (some <$> ·) (list_text_texts addresses)
  have hlisting : readListing text = .valid ⟨some addresses⟩ := by
    unfold readListing
    rw [hdecode]
    show ContractListing.mk <$>
      Schema.optional "contracts" none (nullable (list Schema.text)) members = _
    unfold Schema.optional Json.Members.get?
    rw [hcontracts]
    dsimp only
    rw [hnullable]
    rfl
  -- So what was read comes from the end of the list.
  have hlatest : latest ⟨some addresses⟩ = .ok address := by
    rw [← hread]
    show _ = read text
    rw [read, hlisting]
  unfold latest at hlatest
  dsimp only [Option.getD] at hlatest
  cases hlast : addresses.getLast? with
  | none =>
    rw [hlast] at hlatest
    cases hlatest
  | some last =>
    rw [hlast] at hlatest
    by_cases hempty : last = ""
    · simp [hempty] at hlatest
    · simp only [hempty, if_false] at hlatest
      rw [Except.ok.inj hlatest]

end ContractAddress

/-! ### Slots -/

namespace SlotHashes

/-- The value answers with the slots: each slot is an integer or its text, and the four values may
be wrapped. -/
def IsAnswer (slots : SlotHashes) (answer : Json) : Prop :=
  ∃ blockSlot timeSlot, IsInteger slots.blockSlot blockSlot ∧ IsInteger slots.timeSlot timeSlot ∧
    let payload :=
      Json.array [blockSlot, texts slots.blockHashes, timeSlot, texts slots.timeHashes]
    (answer = payload ∨ answer = .object [("data", payload)])

/-- An answer with slots needs three brackets at most, with its wrapping. -/
theorem IsAnswer.fits {slots : SlotHashes} {answer : Json} (h : slots.IsAnswer answer)
    (hblock : FitsSigned slots.blockSlot) (htime : FitsSigned slots.timeSlot) :
    Json.Fits .usual 3 answer := by
  obtain ⟨blockSlot, timeSlot, hblockSlot, htimeSlot, hanswer⟩ := h
  have hpayload : Json.Fits .usual 2
      (.array [blockSlot, texts slots.blockHashes, timeSlot, texts slots.timeHashes]) := by
    refine .array ?_
    simp only [List.forall_mem_cons, List.not_mem_nil, false_imp_iff, implies_true, and_true]
    exact ⟨hblockSlot.fits hblock.fitsNumeral _, fits_texts _ _,
      htimeSlot.fits htime.fitsNumeral _, fits_texts _ _⟩
  rcases hanswer with rfl | rfl
  · exact hpayload.mono (by decide)
  · refine .object (by simp) fun member hmember => ?_
    rw [List.mem_singleton.mp hmember]
    exact hpayload

theorem IsAnswer.ofJson_unwrap {slots : SlotHashes} {answer : Json} (h : slots.IsAnswer answer)
    (hblock : FitsSigned slots.blockSlot) (htime : FitsSigned slots.timeSlot) :
    ofJson (Payload.unwrap answer) = .valid slots := by
  obtain ⟨blockSlot, timeSlot, hblockSlot, htimeSlot, hanswer⟩ := h
  have hpayload : ofJson (.array [blockSlot, texts slots.blockHashes, timeSlot,
      texts slots.timeHashes]) = .valid slots := by
    simp [ofJson, part, hblockSlot.integer_eq hblock, htimeSlot.integer_eq htime, list_text_texts]
  rcases hanswer with rfl | rfl
  · exact hpayload
  · exact hpayload

/-- The slots are read from each text of an answer with them. -/
theorem read_of_isAnswer {slots : SlotHashes} {answer : Json} (h : slots.IsAnswer answer)
    (hblock : FitsSigned slots.blockSlot) (htime : FitsSigned slots.timeSlot) {text : String}
    (htext : answer.IsTextOf text) : read text = .ok slots := by
  have hdecode : Json.decode .usual text = .ok answer :=
    Json.decode_of_isTextOf .usual ((h.fits hblock htime).mono (by decide)) htext
  unfold read Payload.readAs Payload.read
  rw [hdecode]
  dsimp only [Except.map]
  rw [h.ofJson_unwrap hblock htime]

end SlotHashes

/-! ### Chain heads -/

theorem isBlank_of_isGap {c : Char} (h : Json.isGap c = true) : isBlank c = true := by
  simp only [Json.isGap, Bool.or_eq_true, decide_eq_true_eq] at h
  rcases h with ((rfl | rfl) | rfl) | rfl <;> decide

/-- What is dropped at the ends of a text is trimmed, up to characters that are kept. -/
theorem trimBy_append {drop : Char → Bool} {before behind s : List Char} {first last : Char}
    (hbefore : ∀ c ∈ before, drop c = true) (hbehind : ∀ c ∈ behind, drop c = true)
    (hfirst : drop first = false) (hlast : drop last = false) :
    trimBy drop (before ++ (first :: s ++ [last]) ++ behind) = first :: s ++ [last] := by
  unfold trimBy trimEndBy
  rw [List.append_assoc, List.dropWhile_append_of_pos hbefore, List.append_assoc, List.cons_append,
    List.dropWhile_cons_of_neg (by rw [hfirst]; exact Bool.false_ne_true), ← List.cons_append,
    ← List.append_assoc, List.reverse_append,
    List.dropWhile_append_of_pos fun c hc => hbehind c (List.mem_reverse.mp hc),
    List.reverse_append, List.reverse_singleton, List.singleton_append,
    List.dropWhile_cons_of_neg (by rw [hlast]; exact Bool.false_ne_true), List.reverse_cons,
    List.reverse_reverse]

namespace ChainHead

/-- The value is the status of a node with that latest block. -/
def IsStatus (head : ChainHead) (status : Json) : Prop :=
  ∃ height, IsInteger head.height height ∧ status = .object [("SyncInfo", .object
    [("latest_block_height", height), ("latest_block_time", .string (Timestamp.write head.time))])]

/-- The node prints the text, or prints it where errors go and nothing but blanks else. -/
def Prints (text : String) (output errors : Option String) : Prop :=
  output = some text ∨ errors = some text ∧ ∃ blank, output = some blank ∧ allBlank blank = true

theorem IsStatus.fits {head : ChainHead} {status : Json} (h : head.IsStatus status)
    (hheight : FitsNumeral head.height) : Json.Fits .usual 2 status := by
  obtain ⟨height, hinteger, rfl⟩ := h
  refine .object (by simp) fun member hmember => ?_
  rw [List.mem_singleton.mp hmember]
  refine .object (by simp) ?_
  simp only [List.forall_mem_cons, List.not_mem_nil, false_imp_iff, implies_true, and_true]
  exact ⟨hinteger.fits hheight _, .string _⟩

theorem heightOf_of_isInteger {n : Int} {value : Json} (h : IsInteger n value)
    (hn : FitsNumeral n) : heightOf value = .ok n := by
  rcases h with rfl | rfl
  · rfl
  · rw [heightOf, readInteger_toString hn]

theorem IsStatus.ofJson_eq {head : ChainHead} {status : Json} (h : head.IsStatus status)
    (hheight : FitsNumeral head.height) (htime : Timestamp.InCalendar head.time) :
    ofJson status = .ok head := by
  obtain ⟨height, hinteger, rfl⟩ := h
  have hread : timeOf (.string (Timestamp.write head.time)) = .ok head.time := by
    rw [timeOf, Timestamp.read_write htime]
    rfl
  have hinfo (members : Json.Members) (hne : members ≠ []) :
      syncInfo (.object [("SyncInfo", .object members)]) = .ok (.object members) := by
    simp [syncInfo, Json.isFalsy, hne]
  -- The two members are found whatever stands in them.
  have hfirst (height time : Json) : infoMember (.object [("latest_block_height", height),
      ("latest_block_time", time)]) "latest_block_height" = .ok height := by
    simp [infoMember]
  have hsecond (height time : Json) : infoMember (.object [("latest_block_height", height),
      ("latest_block_time", time)]) "latest_block_time" = .ok time := by
    simp [infoMember, List.lookup_cons]
  rw [ofJson, hinfo _ (List.cons_ne_nil _ _)]
  simp only [bind, Except.bind, hfirst, hsecond, heightOf_of_isInteger hinteger hheight, hread]
  rfl

/-- The text of an object, without the gaps around it, is what a status is read from. -/
theorem statusText_of_prints {members : Json.Members} {text : String}
    {output errors : Option String} (htext : (Json.object members).IsTextOf text)
    (h : Prints text output errors) :
    ∃ text', (Json.object members).IsTextOf text' ∧ statusText output errors = .ok text' := by
  rcases h with rfl | ⟨rfl, blank, rfl, hblank⟩
  · obtain ⟨spacing, before, behind, hspacing, hbefore, hbehind, htext⟩ := htext
    have hnil : Json.AllGaps [] := fun _ hc => absurd hc List.not_mem_nil
    have hopening : isBlank '\x7b' = false := by decide
    have hclosing : isBlank '\x7d' = false := by decide
    -- A status begins and ends with a brace, so what is trimmed is what stood around it.
    have htrim : trimBy isBlank text.toList = Json.chars spacing (.object members) := by
      rw [htext, Json.chars]
      exact trimBy_append (fun c hc => isBlank_of_isGap (hbefore c hc))
        (fun c hc => isBlank_of_isGap (hbehind c hc)) hopening hclosing
    refine ⟨String.ofList (Json.chars spacing (.object members)),
      ⟨spacing, [], [], hspacing, hnil, hnil, ?_⟩, ?_⟩
    · rw [String.toList_ofList, List.append_nil, List.nil_append]
    · unfold statusText
      dsimp only
      rw [htrim]
      rfl
  · refine ⟨text, htext, ?_⟩
    -- Nothing is left of a blank output, and the errors are taken.
    have htrim : trimBy isBlank blank.toList = [] := by
      unfold trimBy
      rw [List.dropWhile_eq_nil_iff.mpr (List.all_eq_true.mp hblank)]
      rfl
    unfold statusText
    dsimp only
    rw [htrim]

/-- The chain head is read from each text of a status with it, wherever the node prints that. -/
theorem readStatus_of_isStatus {head : ChainHead} {status : Json} (h : head.IsStatus status)
    (hheight : FitsNumeral head.height) (htime : Timestamp.InCalendar head.time) {text : String}
    (htext : status.IsTextOf text) {output errors : Option String}
    (hprints : Prints text output errors) : readStatus output errors = .ok head := by
  obtain ⟨members, rfl⟩ : ∃ members, status = .object members := by
    obtain ⟨height, -, rfl⟩ := h
    exact ⟨_, rfl⟩
  obtain ⟨text', htext', hstatus⟩ := statusText_of_prints htext hprints
  have hdecode : Json.decode .usual text' = .ok (.object members) :=
    Json.decode_of_isTextOf .usual ((h.fits hheight).mono (by decide)) htext'
  unfold readStatus
  rw [hstatus]
  show read text' = _
  unfold read
  rw [hdecode]
  exact h.ofJson_eq hheight htime

end ChainHead

end ContractDrill
