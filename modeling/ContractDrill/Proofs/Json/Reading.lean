import ContractDrill.Proofs.Json.RoundTrip

/-!
# What is read from JSON texts

Whatever a reader takes from a text is within its own limits (`fits_of_decode`): no integer is too
long, the members of an object have different names even if those of the text had not, and no more
brackets are open at once than the reader allows.  So a value that was read can be written, and the
same reader reads it again.

The proof follows the scanners from the parts of a number up to whole values.  The scan of items
between brackets is told only what each item is like (`forall_scanItems`), and a value is reached by
induction on the brackets that may still be open (`fits_of_scanValue`).
-/

namespace ContractDrill

namespace Json

/-! ### Numbers -/

theorem isDigit_of_mem_cutWhole {s : List Char} {c : Char} (h : c ∈ (cutWhole s).1) :
    c.isDigit = true := by
  unfold cutWhole at h
  split at h
  · obtain rfl := List.mem_singleton.mp h
    rfl
  · exact List.mem_takeWhile_imp h

/-- An integer has no more digits than its text. -/
theorem fits_of_numberOf {limits : Limits} {negative : Bool} {whole : List Char}
    {fraction : Option (List Char)} {exponent : Option Int} {value : Json} (hwhole : IsDigits whole)
    (h : numberOf limits negative whole fraction exponent = .ok value) (depth : Nat) :
    Fits limits depth value := by
  unfold numberOf at h
  dsimp only at h
  split at h
  · split at h
    · cases h
    · rename_i hlong
      obtain rfl := Except.ok.inj h
      -- Leading zeros apart, the digits of an integer are those it was read from.
      have hle := length_toDigits_digitsToNat_le hwhole.ne_nil hwhole.isDigit
      have hmagnitude : (Binary64.signed negative (digitsToNat whole)).natAbs = digitsToNat whole :=
        natAbs_withSign negative (digitsToNat whole)
      rw [fits_integer_iff, FitsNumeral, hmagnitude]
      exact hle.trans (Nat.le_of_not_lt hlong)
  · split at h
    · cases h
    · obtain rfl := Except.ok.inj h
      exact .number _

/-- A magnitude that is scanned is a number that fits. -/
theorem fits_of_scanMagnitude {limits : Limits} {negative : Bool} {s body : List Char}
    {hbody : body.length ≤ s.length} {scan : Scanned s Json}
    (h : scanMagnitude limits negative s body hbody = .ok scan) (depth : Nat) :
    Fits limits depth scan.value := by
  unfold scanMagnitude at h
  dsimp only at h
  split at h
  · cases h
  · rename_i hwhole
    rw [not_or, List.isEmpty_iff] at hwhole
    split at h
    · cases h
    · rename_i value hvalue
      obtain rfl := Except.ok.inj h
      exact fits_of_numberOf ⟨hwhole.1, fun c hc => isDigit_of_mem_cutWhole hc⟩ hvalue depth

theorem fits_of_scanNumber {limits : Limits} {s : List Char} {scan : Scanned s Json}
    (h : scanNumber limits s = .ok scan) (depth : Nat) : Fits limits depth scan.value := by
  unfold scanNumber at h
  split at h
  · exact fits_of_scanMagnitude h depth
  · exact fits_of_scanMagnitude h depth

/-! ### Items between brackets -/

section

variable {α : Type} {p : α → Prop} {close : Char}
  {item : (s : List Char) → Except Stop (Scanned s α)}

/-- What holds of each item that is scanned holds of all items up to the bracket. -/
theorem forall_scanItems (hitem : ∀ s scan, item s = .ok scan → p scan.value) {read : List α}
    (hread : ∀ value ∈ read, p value) {s : List Char} {items : Scanned s (List α)}
    (h : scanItems close item read s = .ok items) : ∀ value ∈ items.value, p value := by
  -- The scan goes on behind a comma, with a text that is shorter; what was read is reversed.
  induction hlength : s.length using Nat.strongRecOn generalizing read s with
  | _ length ih =>
  rw [scanItems] at h
  split at h
  · cases h
  · rename_i scan hscan
    have hread' : ∀ value ∈ scan.value :: read, p value :=
      List.forall_mem_cons.mpr ⟨hitem s scan hscan, hread⟩
    split at h
    · cases h
    · rename_i mark hmark
      dsimp only at h
      split at h
      · obtain rfl := Except.ok.inj h
        intro value hvalue
        exact hread' value (List.mem_reverse.mp hvalue)
      · split at h
        · split at h
          · cases h
          · rename_i items' hitems'
            obtain rfl := Except.ok.inj h
            -- The rest of the items stands behind the item and its comma.
            have hshorter : (skipGaps mark.left).length < length := by
              have := length_skipGaps_le mark.left
              have := mark.shorter
              have := scan.shorter
              omega
            have hrest := ih _ hshorter hread' hitems' rfl
            exact hrest
        · cases h

/-- What is between brackets is as each of its items is. -/
theorem forall_scanBracket (hitem : ∀ s scan, item s = .ok scan → p scan.value) {s : List Char}
    {items : Scanned s (List α)} (h : scanBracket close item s = .ok items) :
    ∀ value ∈ items.value, p value := by
  have hitems {scan : Scanned (skipGaps s) (List α)}
      (hscan : scanItems close item [] (skipGaps s) = .ok scan) : ∀ value ∈ scan.value, p value :=
    forall_scanItems hitem (fun _ hnil => absurd hnil List.not_mem_nil) hscan
  -- A bracket without items may close at once, behind gaps.
  unfold scanBracket at h
  dsimp only at h
  split at h
  · split at h
    · cases h
    · rename_i scan hscan
      obtain rfl := Except.ok.inj h
      exact hitems hscan
  · split at h
    · obtain rfl := Except.ok.inj h
      exact fun _ hnil => absurd hnil List.not_mem_nil
    · split at h
      · cases h
      · rename_i scan hscan
        obtain rfl := Except.ok.inj h
        exact hitems hscan

end

/-! ### Members -/

/-- Putting a member adds at most its name. -/
theorem mem_names_put {members : Members} {name other : String} {value : Json} :
    other ∈ (members.put name value).map Prod.fst ↔
      other ∈ members.map Prod.fst ∨ other = name := by
  induction members with
  | nil => simp [Members.put]
  | cons member rest ih =>
    obtain ⟨first, old⟩ := member
    unfold Members.put
    by_cases hfirst : first = name
    · subst hfirst
      simp only [if_true, List.map_cons, List.mem_cons]
      tauto
    · rw [if_neg hfirst, List.map_cons, List.map_cons, List.mem_cons, List.mem_cons, ih]
      tauto

/-- Names that are different stay different. -/
theorem nodup_put {members : Members} (h : (members.map Prod.fst).Nodup) (name : String)
    (value : Json) : ((members.put name value).map Prod.fst).Nodup := by
  induction members with
  | nil => simp [Members.put]
  | cons member rest ih =>
    obtain ⟨first, old⟩ := member
    rw [List.map_cons, List.nodup_cons] at h
    unfold Members.put
    -- The name is there, and its value is replaced, or it is put at the end.
    by_cases hfirst : first = name
    · rw [if_pos hfirst]
      exact List.nodup_cons.mpr h
    · rw [if_neg hfirst]
      refine List.nodup_cons.mpr ⟨?_, ih h.2⟩
      rw [mem_names_put, not_or]
      exact ⟨h.1, hfirst⟩

/-- Putting a member keeps what all values share, if its own value shares it. -/
theorem forall_put {p : Json → Prop} {members : Members} (h : ∀ member ∈ members, p member.2)
    (name : String) {value : Json} (hvalue : p value) :
    ∀ member ∈ members.put name value, p member.2 := by
  induction members with
  | nil => simpa [Members.put] using hvalue
  | cons member rest ih =>
    obtain ⟨first, old⟩ := member
    rw [List.forall_mem_cons] at h
    unfold Members.put
    split
    · exact List.forall_mem_cons.mpr ⟨hvalue, h.2⟩
    · exact List.forall_mem_cons.mpr ⟨h.1, ih h.2⟩

/-- Merged members have different names, and no values but their own. -/
theorem fits_mergeMembers {limits : Limits} {depth : Nat} {members : List (String × Json)}
    (h : ∀ member ∈ members, Fits limits depth member.2) :
    Fits limits (depth + 1) (.object (mergeMembers members)) := by
  have hfold : ∀ merged : Members, (merged.map Prod.fst).Nodup →
      (∀ member ∈ merged, Fits limits depth member.2) → Fits limits (depth + 1) (.object
        (members.foldl (fun merged member => Members.put merged member.1 member.2) merged)) := by
    induction members with
    | nil => exact fun merged hnames hmerged => .object hnames hmerged
    | cons member rest ih =>
      intro merged hnames hmerged
      rw [List.forall_mem_cons] at h
      exact ih h.2 _ (nodup_put hnames _ _) (forall_put hmerged _ h.1)
  exact hfold [] List.nodup_nil fun _ hnil => absurd hnil List.not_mem_nil

/-- The value of a member that is scanned fits where values do. -/
theorem fits_of_scanMember {limits : Limits} {depth : Nat}
    {value : (s : List Char) → Except Stop (Scanned s Json)}
    (hvalue : ∀ s scan, value s = .ok scan → Fits limits depth scan.value) {s : List Char}
    {scan : Scanned s (String × Json)} (h : scanMember limits value s = .ok scan) :
    Fits limits depth scan.value.2 := by
  unfold scanMember at h
  split at h
  · cases h
  · split at h
    · cases h
    · split at h
      · split at h
        · cases h
        · rename_i scan' hscan
          obtain rfl := Except.ok.inj h
          exact hvalue _ scan' hscan
      · cases h

/-! ### Values -/

/-- Brackets beyond the depth are scanned only by a reader that allows them. -/
theorem emptyBeyond_of_scanBeyond {limits : Limits} {bracket : Bracket} {close : Char}
    {s : List Char} {scan : Scanned s Unit} (h : scanBeyond limits bracket close s = .ok scan) :
    limits.emptyBeyond = true := by
  unfold scanBeyond at h
  split at h
  · cases h
  · split at h
    · rename_i hempty
      exact hempty.1
    · cases h

/-- A value that is scanned opens no more brackets than it may. -/
theorem fits_of_scanValue {limits : Limits} {depth : Nat} {s : List Char} {scan : Scanned s Json}
    (h : scanValue limits depth s = .ok scan) : Fits limits depth scan.value := by
  induction depth using Nat.strongRecOn generalizing s with
  | _ depth ih =>
  unfold scanValue at h
  split at h
  case h_1 => cases h
  case h_2 =>
    split at h
    · cases h
    · obtain rfl := Except.ok.inj h
      exact .string _
  case h_3 =>
    -- Inside of the bracket one less may be open.
    split at h
    · split at h
      · cases h
      · rename_i hbeyond
        obtain rfl := Except.ok.inj h
        exact .emptyArray (emptyBeyond_of_scanBeyond hbeyond)
    · rename_i depth
      split at h
      · cases h
      · rename_i items hitems
        obtain rfl := Except.ok.inj h
        exact .array (forall_scanBracket (fun _ _ => ih depth (Nat.lt_succ_self depth)) hitems)
  case h_4 =>
    split at h
    · split at h
      · cases h
      · rename_i hbeyond
        obtain rfl := Except.ok.inj h
        exact .emptyObject (emptyBeyond_of_scanBeyond hbeyond)
    · rename_i depth
      split at h
      · cases h
      · rename_i members hmembers
        obtain rfl := Except.ok.inj h
        have hmember (s : List Char) (scan : Scanned s (String × Json)) :
            scanMember limits (scanValue limits depth) s = .ok scan →
              Fits limits depth scan.value.2 :=
          fits_of_scanMember fun _ _ => ih depth (Nat.lt_succ_self depth)
        exact fits_mergeMembers (forall_scanBracket hmember hmembers)
  case h_5 =>
    obtain rfl := Except.ok.inj h
    exact .null
  case h_6 =>
    obtain rfl := Except.ok.inj h
    exact .bool true
  case h_7 =>
    obtain rfl := Except.ok.inj h
    exact .bool false
  case h_8 =>
    obtain rfl := Except.ok.inj h
    exact .number .nan
  case h_9 =>
    obtain rfl := Except.ok.inj h
    exact .number (.infinity false)
  case h_10 =>
    obtain rfl := Except.ok.inj h
    exact .number (.infinity true)
  case h_11 => exact fits_of_scanNumber h depth

/-- **Whatever is read is within the limits of the reader.** -/
theorem fits_of_decode {limits : Limits} {text : String} {value : Json}
    (h : decode limits text = .ok value) : Fits limits limits.depth value := by
  unfold decode decodeChars at h
  split at h
  · cases h
  · split at h
    · cases h
    · rename_i scan hscan
      split at h
      · obtain rfl := Except.ok.inj h
        exact fits_of_scanValue hscan
      · cases h

end Json

end ContractDrill
