import LineCalculator.Proofs.Token.Concatenation
import Mathlib.Tactic

/-!
# Scanning step by step

Steps may be taken any number of times, also behind the end of a line and
behind a foreign character.  `Cursor.steps_eq_items` says what they give out:
the items of the scan one after the other, and nothing from then on.

The items are the tokens up to the first foreign character and that character.
Both are told by the text: the tokens are those of its clean part, and each
item takes at least one character.
-/

namespace LineCalculator

/-- What a step gives out. -/
def Step.item? : Step → Option (Except Fault Token)
  | .token found => some (.ok found.token)
  | .foreign c => some (.error (.foreign c))
  | .done => none

/-- The tokens of a line and, if it has one, its foreign character, in the order
in which a scan meets them. -/
def itemsOf (tokens : List Token) (foreign : Option Char) :
    List (Except Fault Token) :=
  tokens.map .ok ++ foreign.toList.map fun c => .error (.foreign c)

/-- What `count` draws give out: the items in turn, and nothing behind them. -/
def drawn (items : List (Except Fault Token)) (count : Nat) :
    List (Option (Except Fault Token)) :=
  (items.take count).map some ++ List.replicate (count - items.length) none

def isFault : Option (Except Fault Token) → Bool
  | some (.error _) => true
  | some (.ok _) | none => false

/-- The text in front of the first foreign character. -/
def cleanPart (source : String) : String :=
  String.ofList (source.toList.takeWhile fun c => !isForeign c)

/-- What `count` steps from the start of a line give out. -/
def Cursor.results (source : String) (count : Nat) :
    List (Option (Except Fault Token)) :=
  (steps count (start source)).map Step.item?

def Scan.items (scan : Scan) : List (Except Fault Token) :=
  itemsOf (scan.found.map Located.token) scan.foreign

/-! ## Runs of steps -/

namespace Cursor

variable {cursor after : Cursor}

theorem items_of_token {found : Located}
    (hnext : cursor.next = (.token found, after)) :
    cursor.scan.items = .ok found.token :: after.scan.items := by
  rw [scan_of_token hnext]
  rfl

/-- A step without a token leaves nothing ahead. -/
theorem rest_eq_nil_of_next {step : Step} (hnext : cursor.next = (step, after))
    (hstep : ∀ found, step ≠ .token found) : after.rest = [] := by
  rcases cursor with ⟨offset, text⟩
  rcases text_cases text with
    ⟨blanks, token, tail, rfl, hblanks, hspelled, htail⟩ |
    ⟨blanks, c, tail, rfl, hblanks, hforeign⟩ | hblanks
  · rw [next_spelled offset hblanks hspelled htail, Prod.mk.injEq] at hnext
    exact absurd hnext.1.symm (hstep _)
  · rw [next_foreign offset hblanks hforeign, Prod.mk.injEq] at hnext
    rw [← hnext.2]
  · rw [next_blanks offset hblanks, Prod.mk.injEq] at hnext
    rw [← hnext.2]

theorem items_of_rest_eq_nil (hrest : cursor.rest = []) :
    cursor.scan.items = [] := by
  rcases cursor with ⟨offset, text⟩
  obtain rfl : text = [] := hrest
  rw [scan_of_done (next_blanks offset (by simp))]
  rfl

theorem steps_eq_items (count : Nat) (cursor : Cursor) :
    (steps count cursor).map Step.item? = drawn cursor.scan.items count := by
  induction count generalizing cursor with
  | zero => simp [steps, drawn]
  | succ count ih =>
      rcases hnext : cursor.next with ⟨step, after⟩
      -- At the end and at a foreign character `after` has no items left, so the
      -- hypothesis answers for the steps behind them as well.
      rw [steps, hnext, List.map_cons, ih after]
      cases step with
      | token found =>
          rw [items_of_token hnext]
          simp [Step.item?, drawn]
      | foreign c =>
          rw [items_of_rest_eq_nil (rest_eq_nil_of_next hnext (by simp)),
            scan_of_foreign hnext]
          simp [Step.item?, drawn, Scan.items, itemsOf]
      | done =>
          rw [items_of_rest_eq_nil (rest_eq_nil_of_next hnext (by simp)),
            scan_of_done hnext]
          simp [Step.item?, drawn, Scan.items, itemsOf, List.replicate_succ]

theorem items_length_le (offset : Nat) (text : List Char) :
    (Cursor.mk offset text).scan.items.length ≤ text.length := by
  induction text using scan_induction generalizing offset with
  | token blanks token tail hblanks hspelled htail ih =>
      have hpos := List.length_pos_iff.mpr hspelled.lexeme_ne_nil
      have hrest := ih (offset + byteLength blanks + byteLength token.lexeme.toList)
      rw [items_of_token (next_spelled offset hblanks hspelled htail)]
      simp only [List.length_cons, List.length_append]
      omega
  | foreign blanks c tail hblanks hforeign =>
      rw [scan_of_foreign (next_foreign offset hblanks hforeign)]
      simp [Scan.items, itemsOf]
      omega
  | done blanks hblanks =>
      rw [scan_of_done (next_blanks offset hblanks)]
      simp [Scan.items, itemsOf]

end Cursor

/-! ## Draws of items -/

section Draws

variable {items : List (Except Fault Token)} {count : Nat}

theorem some_mem_drawn {item : Except Fault Token}
    (hitem : some item ∈ drawn items count) : item ∈ items := by
  rw [drawn, List.mem_append, List.mem_map] at hitem
  rcases hitem with ⟨other, hmem, heq⟩ | hnone
  · rw [← Option.some.inj heq]
    exact List.mem_of_mem_take hmem
  · simp [List.mem_replicate] at hnone

theorem mem_drawn_length {item : Except Fault Token} (hitem : item ∈ items) :
    some item ∈ drawn items items.length := by
  simpa [drawn] using hitem

theorem countP_isSome_drawn_le (items : List (Except Fault Token)) (count : Nat) :
    (drawn items count).countP Option.isSome ≤ items.length := by
  have hnone : (List.replicate (count - items.length)
      (none : Option (Except Fault Token))).countP Option.isSome = 0 := by
    simp [List.countP_replicate]
  rw [drawn, List.countP_append, hnone, Nat.add_zero]
  calc
    ((items.take count).map some).countP Option.isSome ≤
        ((items.take count).map some).length := List.countP_le_length
    _ = (items.take count).length := List.length_map _
    _ ≤ items.length := (List.take_sublist count items).length_le

theorem countP_isFault_drawn_le (tokens : List Token) (foreign : Option Char)
    (count : Nat) :
    (drawn (itemsOf tokens foreign) count).countP isFault ≤ 1 := by
  have hnone : (List.replicate (count - (itemsOf tokens foreign).length)
      (none : Option (Except Fault Token))).countP isFault = 0 := by
    simp [List.countP_replicate, isFault]
  have hfound : ((tokens.map Except.ok).map some).countP
      (isFault : Option (Except Fault Token) → Bool) = 0 := by
    rw [List.countP_eq_zero]
    simp [isFault]
  have hall : ((itemsOf tokens foreign).map some).countP isFault ≤ 1 := by
    rw [itemsOf, List.map_append, List.countP_append, hfound, Nat.zero_add]
    cases foreign <;> simp [isFault]
  rw [drawn, List.countP_append, hnone, Nat.add_zero]
  exact Nat.le_trans ((List.take_sublist count _).map some).countP_le hall

/-- Nothing is drawn behind a fault, and nothing behind nothing. -/
theorem pairwise_drawn (tokens : List Token) (foreign : Option Char)
    (count : Nat) :
    (drawn (itemsOf tokens foreign) count).Pairwise fun earlier later =>
      earlier = none ∨ isFault earlier = true → later = none := by
  have hall : ((itemsOf tokens foreign).map some).Pairwise
      fun earlier later => earlier = none ∨ isFault earlier = true →
        later = none := by
    rw [itemsOf, List.map_append, List.pairwise_append]
    refine ⟨?_, ?_, ?_⟩
    · rw [List.map_map, List.pairwise_map]
      exact List.pairwise_of_forall (by simp [isFault])
    · cases foreign <;> simp
    · simp [isFault]
  rw [drawn, List.pairwise_append]
  refine ⟨hall.sublist ((List.take_sublist count _).map some), ?_, ?_⟩
  · simp [List.pairwise_replicate]
  · intro earlier _ later hlater _
    exact (List.mem_replicate.mp hlater).2

end Draws

/-! ## The items of a line -/

theorem found_cleanPart (source : String) :
    (Scan.ofString (cleanPart source)).found = (Scan.ofString source).found := by
  rcases exists_run (fun c => !isForeign c) source.toList with
    ⟨clean, tail, htext, hclean, htail⟩
  have hpart : (cleanPart source).toList = clean := by
    rw [cleanPart, String.toList_ofList, htext, takeWhile_run hclean htail]
  rw [Scan.ofString, Scan.ofString, Cursor.start, Cursor.start, hpart, htext]
  cases tail with
  | nil => rw [List.append_nil]
  | cons c after =>
      have hforeign : isForeign c = true := by simpa using htail
      rw [Cursor.scan_append_cons_foreign 0 (by simpa using hclean) hforeign]

theorem tokens_cleanPart (source : String) :
    (Line.tokens (cleanPart source)).outcome =
      .ok ((Scan.ofString source).found.map Located.token) := by
  have hnone : (cleanPart source).toList.find? isForeign = none := by
    rw [cleanPart, String.toList_ofList, List.find?_eq_none]
    intro c hc
    simpa using List.mem_takeWhile_imp hc
  rw [Line.tokens_outcome_eq, hnone, found_cleanPart]

theorem Cursor.results_eq_drawn (source : String) (count : Nat) :
    results source count =
      drawn (itemsOf ((Scan.ofString source).found.map Located.token)
        (source.toList.find? isForeign)) count := by
  have hforeign : (Scan.ofString source).foreign =
      source.toList.find? isForeign := scan_foreign 0 source.toList
  rw [results, steps_eq_items, ← hforeign]
  rfl

/-- Steps give out the tokens of a line's clean part, then the foreign
character behind it if there is one, and nothing from then on.  Taken together
they tell the outcome of the scan. -/
theorem Cursor.results_agree_with_scan (source : String) :
    ∃ tokens, (Line.tokens (cleanPart source)).outcome = .ok tokens ∧
      (∀ count, results source count =
        drawn (itemsOf tokens (source.toList.find? isForeign)) count) ∧
      (∀ count, (results source count).Pairwise fun earlier later =>
        earlier = none ∨ isFault earlier = true → later = none) ∧
      (∀ count, (results source count).countP isFault ≤ 1) ∧
      (∀ count, (results source count).countP Option.isSome ≤ source.length) ∧
      ((∀ count, ∀ result ∈ results source count, isFault result = false) →
        (Line.tokens source).outcome = .ok tokens) ∧
      ∀ count fault, some (.error fault) ∈ results source count →
        (Line.tokens source).outcome = .error fault := by
  refine ⟨_, tokens_cleanPart source, results_eq_drawn source, ?_, ?_, ?_, ?_, ?_⟩
  · intro count
    rw [results_eq_drawn]
    exact pairwise_drawn _ _ count
  · intro count
    rw [results_eq_drawn]
    exact countP_isFault_drawn_le _ _ count
  · intro count
    rw [results, steps_eq_items, ← String.length_toList]
    exact Nat.le_trans (countP_isSome_drawn_le _ count)
      (items_length_le 0 source.toList)
  · intro hfaultless
    cases hforeign : source.toList.find? isForeign with
    | none => rw [Line.tokens_outcome_eq, hforeign]
    | some c =>
        have hmem : Except.error (.foreign c) ∈
            itemsOf ((Scan.ofString source).found.map Located.token) (some c) := by
          simp [itemsOf]
        have hdrawn := mem_drawn_length hmem
        rw [← hforeign, ← results_eq_drawn] at hdrawn
        simpa [isFault] using hfaultless _ _ hdrawn
  · intro count fault hfault
    rw [results_eq_drawn] at hfault
    have hitem := some_mem_drawn hfault
    rw [Line.tokens_outcome_eq_error_iff]
    simpa [itemsOf, eq_comm, and_comm] using hitem

/-- Four steps over a line with a wide blank and a foreign letter in it. -/
theorem Cursor.results_agree_with_scan_foreign :
    results "12\u3000é+3" 4 =
        [some (.ok ⟨.number, "12"⟩), some (.error (.foreign 'é')), none, none] ∧
      (results "12\u3000é+3" 4).countP Option.isSome ≤ "12\u3000é+3".length ∧
      (Line.tokens "12\u3000é+3").outcome = .error (.foreign 'é') := by
  have hresults : results "12\u3000é+3" 4 =
      [some (.ok ⟨.number, "12"⟩), some (.error (.foreign 'é')), none, none] := by
    cbv
  obtain ⟨tokens, _, _, _, _, hlength, _, hfault⟩ :=
    results_agree_with_scan "12\u3000é+3"
  exact ⟨hresults, hlength 4, hfault 4 _ (by simp [hresults])⟩

end LineCalculator
