import PredicateRules.Proofs.Scanner.Offset

/-!
Where a scanner is. Whatever is called, its offset is moved by single movements, none of which cuts a
character; the furthest offset is the furthest that any of them led to, and the line is that of this offset.
-/

namespace PredicateRules

namespace ByteScanner

variable {start here earlier stop : ByteScanner} {places more : List Nat} {location : Nat}

/-- The cursor goes from one state to another, step by step, and after each step it is at the next of the
offsets. Going back does without counting. -/
inductive Walk : ByteScanner → List Nat → ByteScanner → Prop where
  | stay (start : ByteScanner) : Walk start [] start
  | move {start here stop : ByteScanner} {places : List Nat} {location : Nat} (walk : Walk start places here)
      (moved : here.moveTo? location = some stop) : Walk start (places ++ [location]) stop
  | back {start earlier here : ByteScanner} {places more : List Nat} (walk : Walk start places earlier)
      (further : Walk earlier more here) :
      Walk start (places ++ more ++ [earlier.location]) { here with location := earlier.location }
  | setSkips {start here : ByteScanner} {places : List Nat} (walk : Walk start places here)
      (skips : Option CharClass) : Walk start places { here with skips := skips }
  | setCaseSensitive {start here : ByteScanner} {places : List Nat} (walk : Walk start places here)
      (caseSensitive : Bool) : Walk start places { here with caseSensitive := caseSensitive }

theorem Walk.trans (walk : Walk start places here) (further : Walk here more stop) :
    Walk start (places ++ more) stop := by
  induction further with
  | stay => rwa [List.append_nil]
  | move _ moved ih =>
      rw [← List.append_assoc]
      exact .move (ih walk) moved
  | back _ further ih _ =>
      simp only [← List.append_assoc]
      exact .back (ih walk) further
  | setSkips _ skips ih => exact .setSkips (ih walk) skips
  | setCaseSensitive _ caseSensitive ih => exact .setCaseSensitive (ih walk) caseSensitive

def Walks (start stop : ByteScanner) : Prop := ∃ places, Walk start places stop

theorem of_moveTo? (moved : here.moveTo? location = some stop) :
    stop.location = location ∧ here.highWater ≤ stop.highWater ∧ here.line ≤ stop.line ∧
      (here.location ≤ here.highWater → stop.highWater = max here.highWater location) := by
  simp only [moveTo?] at moved
  split at moved
  next beyond =>
    obtain ⟨fresh, -, same⟩ := Option.bind_eq_some_iff.mp moved
    cases same
    refine ⟨rfl, Nat.le_max_right _ _, Nat.le_add_right _ _, fun _ => Nat.max_comm _ _⟩
  next within =>
    cases moved
    refine ⟨rfl, Nat.le_refl _, Nat.le_refl _, fun inside => ?_⟩
    dsimp only
    omega

theorem Walk.highWater_le (walk : Walk start places stop) : start.highWater ≤ stop.highWater := by
  induction walk with
  | stay => exact Nat.le_refl _
  | move _ moved ih => exact Nat.le_trans ih (of_moveTo? moved).2.1
  | back _ _ ih ihFurther => exact Nat.le_trans ih ihFurther
  | setSkips _ _ ih => exact ih
  | setCaseSensitive _ _ ih => exact ih

theorem Walk.line_le (walk : Walk start places stop) : start.line ≤ stop.line := by
  induction walk with
  | stay => exact Nat.le_refl _
  | move _ moved ih => exact Nat.le_trans ih (of_moveTo? moved).2.2.1
  | back _ _ ih ihFurther => exact Nat.le_trans ih ihFurther
  | setSkips _ _ ih => exact ih
  | setCaseSensitive _ _ ih => exact ih

theorem Walk.location_le (walk : Walk start places stop) (within : start.location ≤ start.highWater) :
    stop.location ≤ stop.highWater := by
  induction walk with
  | stay => exact within
  | move walk moved ih =>
      obtain ⟨location, -, -, highWater⟩ := of_moveTo? moved
      rw [location, highWater (ih within)]
      exact Nat.le_max_right _ _
  | back walk further ih _ => exact Nat.le_trans (ih within) further.highWater_le
  | setSkips _ _ ih => exact ih within
  | setCaseSensitive _ _ ih => exact ih within

/-- The furthest offset is the furthest one of all that the cursor was at. -/
theorem Walk.highWater_eq (walk : Walk start places stop) (within : start.location ≤ start.highWater) :
    stop.highWater = places.foldl max start.highWater := by
  induction walk with
  | stay => rfl
  | move walk moved ih =>
      rw [List.foldl_append, ← ih within]
      exact (of_moveTo? moved).2.2.2 (walk.location_le within)
  | back walk further ih ihFurther =>
      have inside := walk.location_le within
      rw [List.foldl_append, List.foldl_append, ← ih within, ← ihFurther inside]
      exact (Nat.max_eq_left (Nat.le_trans inside further.highWater_le)).symm
  | setSkips _ _ ih => exact ih within
  | setCaseSensitive _ _ ih => exact ih within

end ByteScanner

namespace Scanner

open ByteScanner (cut? between? indexed cut?_append between?_append lastBoundary)

variable {scanner start here earlier stop : Scanner}

/-- The cursor is not beyond the furthest place, that place is in the text, and the line is one more than
the newlines before it. -/
structure Coherent (scanner : Scanner) : Prop where
  within : scanner.passed.length ≤ scanner.furthest
  inText : scanner.furthest ≤ scanner.text.length
  line : scanner.line = 1 + (scanner.text.take scanner.furthest).count '\n'

theorem coherent_ofText (text : List Char) : Coherent (ofText text) :=
  ⟨Nat.le_refl 0, Nat.zero_le _, rfl⟩

theorem take_max {α : Type} (items : List α) (old new : Nat) :
    items.take (max old new) = items.take old ++ (items.take new).drop old := by
  rcases Nat.le_total old new with grows | within
  · rw [Nat.max_eq_right grows, ← Nat.min_eq_left grows, ← List.take_take, Nat.min_eq_left grows,
      List.take_append_drop]
  · have none : (items.take new).drop old = [] :=
      List.drop_eq_nil_of_le (Nat.le_trans (List.length_take_le _ _) within)
    rw [Nat.max_eq_left within, none, List.append_nil]

theorem take_text {scanner : Scanner} {place : Nat} (beyond : scanner.passed.length ≤ place) :
    scanner.text.take place =
      scanner.passed.reverse ++ scanner.remaining.take (place - scanner.passed.length) := by
  rw [text, List.take_append, List.length_reverse,
    List.take_of_length_le (by rwa [List.length_reverse])]

theorem Coherent.forward (coherent : Coherent here) (count : Nat) : Coherent (here.forward count) := by
  have within := coherent.within
  have inText := coherent.inText
  constructor
  · simp only [Scanner.forward, List.length_append, List.length_reverse]
    omega
  · rw [text_forward]
    simp only [Scanner.forward, text, List.length_append, List.length_reverse, List.length_take] at inText ⊢
    omega
  · -- What is crossed beyond the old furthest place is what the new one has before it in addition.
    have crossed : (here.remaining.take count).length = min count here.remaining.length := List.length_take
    have beyond : here.passed.length ≤
        max here.furthest (here.passed.length + (here.remaining.take count).length) := by omega
    have split : max here.furthest (here.passed.length + (here.remaining.take count).length) -
        here.passed.length = max (here.furthest - here.passed.length) (min count here.remaining.length) := by
      omega
    have fresh : here.remaining.take (min count here.remaining.length) = here.remaining.take count := by
      rw [← List.take_take, List.take_length]
    rw [text_forward]
    simp only [Scanner.forward]
    rw [take_text beyond, split, take_max, fresh, ← List.append_assoc, ← take_text within, List.count_append,
      coherent.line, Nat.add_assoc]

def rewound (scanner : Scanner) : Scanner := { scanner with passed := [], remaining := scanner.text }

theorem setLocation_eq (scanner : Scanner) (location : Nat) :
    scanner.setLocation location = scanner.rewound.forward (charactersWithin location scanner.text) := rfl

theorem Coherent.rewound (coherent : Coherent here) : Coherent here.rewound :=
  ⟨Nat.zero_le _, coherent.inText, coherent.line⟩

theorem Coherent.backTo (coherent : Coherent here) (same : earlier.text = here.text)
    (before : earlier.passed.length ≤ here.furthest) : Coherent (here.backTo earlier) := by
  have text : (here.backTo earlier).text = here.text := same
  refine ⟨before, ?_, ?_⟩
  · rw [text]
    exact coherent.inText
  · rw [text]
    exact coherent.line

/-! ### The offset of the cursor -/

theorem byteLength_le_of_prefix {front text : List Char} (begins : front <+: text) :
    byteLength front ≤ byteLength text := by
  obtain ⟨behind, rfl⟩ := begins
  simp

theorem isValid_iff {text : String} {offset : Nat} :
    String.Pos.Raw.IsValid text ⟨offset⟩ ↔ ∃ front, front <+: text.toList ∧ byteLength front = offset := by
  rw [String.Pos.Raw.isValid_iff_exists_append]
  constructor
  · rintro ⟨front, behind, rfl, same⟩
    refine ⟨front.toList, ⟨behind.toList, String.toList_append.symm⟩, ?_⟩
    rw [← utf8ByteSize_ofList, String.ofList_toList]
    exact (congrArg String.Pos.Raw.byteIdx same).symm
  · rintro ⟨front, ⟨behind, whole⟩, rfl⟩
    refine ⟨String.ofList front, String.ofList behind, ?_, ?_⟩
    · rw [← String.ofList_append, whole, String.ofList_toList]
    · rw [← utf8ByteSize_ofList]
      rfl

theorem byteLength_charactersWithin (bytes : Nat) (text : List Char) :
    byteLength (text.take (charactersWithin bytes text)) ≤ bytes ∧
      ∀ front, front <+: text → byteLength front ≤ bytes →
        byteLength front ≤ byteLength (text.take (charactersWithin bytes text)) := by
  induction text generalizing bytes with
  | nil =>
      refine ⟨Nat.zero_le _, fun front begins _ => ?_⟩
      exact byteLength_le_of_prefix begins
  | cons character text ih =>
      rw [charactersWithin]
      split
      next fits =>
        obtain ⟨within, most⟩ := ih (bytes - character.utf8Size)
        rw [List.take_succ_cons, byteLength]
        refine ⟨by omega, fun front begins bound => ?_⟩
        cases front with
        | nil => exact Nat.zero_le _
        | cons first front =>
            obtain ⟨rfl, tail⟩ := List.cons_prefix_cons.mp begins
            rw [byteLength] at bound ⊢
            exact Nat.add_le_add_left (most front tail (by omega)) _
      next exceeds =>
        refine ⟨Nat.zero_le _, fun front begins bound => ?_⟩
        cases front with
        | nil => exact Nat.zero_le _
        | cons first front =>
            obtain ⟨rfl, -⟩ := List.cons_prefix_cons.mp begins
            rw [byteLength] at bound
            omega

/-- The scanner with its places as offsets in bytes. -/
def bytes (scanner : Scanner) : ByteScanner :=
  { text := scanner.text
    location := scanner.location
    highWater := byteLength (scanner.text.take scanner.furthest)
    line := scanner.line
    skips := scanner.skips
    caseSensitive := scanner.caseSensitive }

@[simp]
theorem location_bytes (scanner : Scanner) : scanner.bytes.location = scanner.location := rfl

theorem remaining?_bytes (scanner : Scanner) : scanner.bytes.remaining? = some scanner.remaining := by
  have cut := cut?_append scanner.passed.reverse scanner.remaining
  rw [byteLength_reverse] at cut
  exact congrArg (Option.map Prod.snd) cut

theorem length_bytes (scanner : Scanner) :
    scanner.bytes.length = scanner.location + byteLength scanner.remaining := by
  show byteLength scanner.text = _
  rw [text, byteLength_append, byteLength_reverse, location]

theorem location_eq (scanner : Scanner) :
    scanner.location = byteLength (scanner.text.take scanner.passed.length) := by
  have taken : scanner.text.take scanner.passed.length = scanner.passed.reverse :=
    List.take_left' List.length_reverse
  rw [taken, byteLength_reverse, location]

theorem byteLength_take_mono {fewer more : Nat} (within : fewer ≤ more) (text : List Char) :
    byteLength (text.take fewer) ≤ byteLength (text.take more) := by
  refine byteLength_le_of_prefix ?_
  rw [← Nat.min_eq_left within, ← List.take_take]
  exact List.take_prefix _ _

theorem Coherent.location_le (coherent : Coherent here) : here.bytes.location ≤ here.bytes.highWater := by
  show here.location ≤ byteLength (here.text.take here.furthest)
  rw [location_eq]
  exact byteLength_take_mono coherent.within _

/-- The movement that leads from one state to another one counts the newlines beyond the furthest place. -/
theorem moveTo?_bytes (before : Coherent here) (after : Coherent stop) (text : stop.text = here.text)
    (furthest : stop.furthest = max here.furthest stop.passed.length) (skips : stop.skips = here.skips)
    (caseSensitive : stop.caseSensitive = here.caseSensitive) :
    here.bytes.moveTo? stop.location = some stop.bytes := by
  have line := after.line
  rw [text] at line
  have highest : max here.bytes.location here.bytes.highWater = here.bytes.highWater :=
    Nat.max_eq_right before.location_le
  have place := stop.location_eq
  rw [text] at place
  simp only [ByteScanner.moveTo?, highest]
  -- Beyond the furthest place some text is fresh and is counted; up to it nothing is.
  rcases Nat.lt_or_ge here.furthest stop.passed.length with beyond | within
  · rw [Nat.max_eq_right (Nat.le_of_lt beyond)] at furthest
    obtain ⟨fresh, taken⟩ :
        ∃ fresh, here.text.take stop.passed.length = here.text.take here.furthest ++ fresh := by
      have grown := take_max here.text here.furthest stop.passed.length
      rw [Nat.max_eq_right (Nat.le_of_lt beyond)] at grown
      exact ⟨_, grown⟩
    have total : stop.location = here.bytes.highWater + byteLength fresh := by
      rw [place, taken, byteLength_append]
      rfl
    have nonempty : 0 < byteLength fresh := by
      have lengths := congrArg List.length taken
      have inText := Nat.le_trans after.within after.inText
      rw [text] at inText
      rw [List.length_append, List.length_take, List.length_take] at lengths
      exact Nat.lt_of_lt_of_le (by omega) (length_le_byteLength fresh)
    have cut := between?_append (here.text.take here.furthest) fresh (here.text.drop stop.passed.length)
    rw [← List.append_assoc, ← taken, List.take_append_drop] at cut
    have higher : here.bytes.highWater < stop.location := by omega
    rw [furthest, taken, List.count_append, ← Nat.add_assoc, ← before.line] at line
    rw [Nat.max_eq_left (Nat.le_of_lt higher), if_pos higher, total]
    simp only [bytes, text, furthest, skips, caseSensitive, line, taken, byteLength_append]
    rw [cut]
    simp only [place, taken, byteLength_append]
    rfl
  · rw [Nat.max_eq_left within] at furthest
    have lower : stop.location ≤ here.bytes.highWater := place ▸ byteLength_take_mono within _
    rw [Nat.max_eq_right lower, if_neg (Nat.lt_irrefl _)]
    simp only [bytes, text, furthest, skips, caseSensitive, line, before.line]

theorem moveTo?_forward (coherent : Coherent here) (count : Nat) :
    here.bytes.moveTo? (here.location + byteLength (here.remaining.take count)) =
      some (here.forward count).bytes := by
  have place : (here.forward count).location = here.location + byteLength (here.remaining.take count) := by
    simp only [location, forward, byteLength_append, byteLength_reverse, Nat.add_comm]
  rw [← place]
  refine moveTo?_bytes coherent (coherent.forward count) (text_forward _ _) ?_ rfl rfl
  simp only [forward, List.length_append, List.length_reverse, Nat.add_comm]

theorem moveTo?_front (coherent : Coherent here) {front : List Char} (isFront : front <+: here.remaining) :
    here.bytes.moveTo? (here.location + byteLength front) = some (here.forward front.length).bytes := by
  have moved := moveTo?_forward coherent front.length
  rwa [← List.prefix_iff_eq_take.mp isFront] at moved

theorem location_setLocation (scanner : Scanner) (offset : Nat) :
    (scanner.setLocation offset).location =
      byteLength (scanner.text.take (charactersWithin offset scanner.text)) := by
  simp only [setLocation_eq, Scanner.location, Scanner.forward, rewound, List.append_nil, byteLength_reverse]

theorem setLocation?_bytes (coherent : Coherent here) (offset : Nat) :
    here.bytes.setLocation? offset = some (here.setLocation offset).bytes := by
  have place : lastBoundary here.text (min offset (byteLength here.text)) = (here.setLocation offset).location := by
    obtain ⟨⟨front, isFront, boundary⟩, within, most⟩ :=
      ByteScanner.lastBoundary_spec here.text (min offset (byteLength here.text))
    obtain ⟨fits, longest⟩ := byteLength_charactersWithin offset here.text
    rw [location_setLocation, ← boundary]
    rw [← boundary] at within most
    have taken : here.text.take (charactersWithin offset here.text) <+: here.text := List.take_prefix _ _
    exact Nat.le_antisymm (longest front isFront (by omega))
      (most _ taken (Nat.le_min.mpr ⟨fits, byteLength_le_of_prefix taken⟩))
  refine (congrArg here.bytes.moveTo? place).trans ?_
  refine moveTo?_bytes coherent (coherent.rewound.forward _) (text_setLocation _ _) ?_ rfl rfl
  simp only [setLocation_eq, forward, rewound, List.length_append, List.length_reverse, List.length_nil,
    Nat.add_comm]

/-! ### Every call, by bytes and by characters -/

/-- What a call does for the places of a scanner. -/
structure Reaches (start stop : Scanner) : Prop where
  text : stop.text = start.text
  furthest : start.furthest ≤ stop.furthest
  coherent : Coherent stop
  walks : ByteScanner.Walks start.bytes stop.bytes

theorem Reaches.refl (coherent : Coherent start) : Reaches start start :=
  ⟨rfl, Nat.le_refl _, coherent, [], .stay _⟩

theorem Reaches.trans (reaches : Reaches start here) (further : Reaches here stop) : Reaches start stop := by
  obtain ⟨places, walk⟩ := reaches.walks
  obtain ⟨more, walkOn⟩ := further.walks
  exact ⟨further.text.trans reaches.text, Nat.le_trans reaches.furthest further.furthest, further.coherent,
    _, walk.trans walkOn⟩

theorem bytes_backTo (same : here.text = earlier.text) :
    (here.backTo earlier).bytes = { here.bytes with location := earlier.location } := by
  have whole : (here.backTo earlier).text = here.text := same.symm
  simp only [bytes, whole]
  rfl

theorem Reaches.back (reaches : Reaches start earlier) (further : Reaches earlier here) :
    Reaches start (here.backTo earlier) := by
  obtain ⟨places, walk⟩ := reaches.walks
  obtain ⟨more, walkOn⟩ := further.walks
  refine ⟨reaches.text, Nat.le_trans reaches.furthest further.furthest, ?_,
    places ++ more ++ [earlier.bytes.location], ?_⟩
  · exact further.coherent.backTo further.text.symm
      (Nat.le_trans reaches.coherent.within further.furthest)
  · rw [bytes_backTo further.text]
    exact walk.back walkOn

theorem Reaches.forward (coherent : Coherent here) (count : Nat) : Reaches here (here.forward count) :=
  ⟨text_forward _ _, furthest_le_forward _ _, coherent.forward count, _,
    .move (.stay _) (moveTo?_forward coherent count)⟩

/-- By bytes there is an outcome, which is the one by characters. -/
structure Tracks {α : Type} (here : Scanner) (outcome : Option (α × ByteScanner)) (run : α × Scanner) : Prop where
  same : outcome = some (run.1, run.2.bytes)
  reaches : Reaches here run.2

theorem Tracks.map {α β : Type} {outcome : Option (α × ByteScanner)} {run : α × Scanner}
    (tracks : Tracks here outcome run) (say : α → β) :
    Tracks here (outcome.map (Prod.map say id)) (run.map say id) where
  same := by
    rw [tracks.same]
    rfl
  reaches := tracks.reaches

theorem skipIgnored?_bytes (coherent : Coherent here) :
    here.bytes.skipIgnored? = some here.skipIgnored.bytes ∧ Reaches here here.skipIgnored := by
  unfold ByteScanner.skipIgnored? skipIgnored
  cases skips : here.skips with
  | none =>
      have kept : here.remaining.takeWhile here.isSkipped = [] := by
        cases here.remaining <;> simp [isSkipped, skips]
      rw [kept]
      simp only [bytes, skips]
      exact ⟨trivial, .refl coherent⟩
  | some skip =>
      have same : here.isSkipped = skip := by
        funext character
        simp [isSkipped, skips]
      have own : here.bytes.skips = some skip := skips
      simp only [own, remaining?_bytes, bind, Option.bind, ByteScanner.runLength_eq, same]
      have moved := moveTo?_front coherent (List.takeWhile_prefix (p := skip) (l := here.remaining))
      cases run : here.remaining.takeWhile skip with
      | nil => exact ⟨rfl, .refl coherent⟩
      | cons character rest =>
          have positive : 0 < byteLength (character :: rest) :=
            Nat.lt_of_lt_of_le (Nat.succ_pos rest.length) (length_le_byteLength (character :: rest))
          rw [run] at moved
          rw [if_pos positive]
          exact ⟨moved, .forward coherent _⟩

theorem atLimit_bytes (scanner : Scanner) :
    decide (scanner.bytes.length ≤ scanner.bytes.location) = scanner.remaining.isEmpty := by
  rw [length_bytes]
  show decide (scanner.location + byteLength scanner.remaining ≤ scanner.location) = _
  cases remaining : scanner.remaining with
  | nil => simp [byteLength]
  | cons character rest =>
      have := character.utf8Size_pos
      refine decide_eq_false ?_
      rw [byteLength]
      omega

theorem atEnd_tracks (coherent : Coherent here) : Tracks here here.bytes.atEnd? here.atEnd := by
  obtain ⟨same, reaches⟩ := skipIgnored?_bytes coherent
  refine ⟨?_, .back (.refl coherent) reaches⟩
  simp only [ByteScanner.atEnd?, same, bind, Option.bind, atLimit_bytes, atEnd, bytes_backTo reaches.text]
  rfl

theorem advance_tracks (coherent : Coherent here) : Tracks here here.bytes.advance? here.advance := by
  simp only [ByteScanner.advance?, advance, remaining?_bytes, bind, Option.bind]
  cases remaining : here.remaining with
  | nil => exact ⟨rfl, .refl coherent⟩
  | cons character rest =>
      have isFront : [character] <+: here.remaining := by simp [remaining]
      have moved := moveTo?_front coherent isFront
      refine ⟨?_, .forward coherent 1⟩
      simp only [byteLength, Nat.add_zero] at moved
      simp only [location_bytes, moved]
      rfl

theorem scanRun_tracks (coherent : Coherent here) (set : CharClass) (stopWhen : Bool) :
    Tracks here (here.bytes.scanWithSet? set stopWhen)
      (here.scanRun fun character => !(set character == stopWhen)) := by
  have looked := atEnd_tracks coherent
  unfold ByteScanner.scanWithSet? scanRun
  rw [looked.same]
  cases ended : here.atEnd with
  | mk atEnd after =>
    rw [ended] at looked
    cases atEnd with
    | true => exact ⟨rfl, looked.reaches⟩
    | false =>
        obtain ⟨same, reaches⟩ := skipIgnored?_bytes looked.reaches.coherent
        have collected := ByteScanner.collect_indexed (fun character => set character == stopWhen)
          after.skipIgnored.isSkipped after.skipIgnored.location 0 after.skipIgnored.remaining []
        rw [Nat.add_zero, List.nil_append] at collected
        have skips : after.skipIgnored.bytes.isSkipped = after.skipIgnored.isSkipped := rfl
        simp only [bind, Option.bind, Bool.false_eq_true, if_false, same, remaining?_bytes, skips, location_bytes,
          collected]
        cases kept : ((after.skipIgnored.remaining.takeWhile fun character => !(set character == stopWhen)).filter
          fun character => !after.skipIgnored.isSkipped character) with
        | nil => exact ⟨rfl, looked.reaches.trans reaches⟩
        | cons character kept =>
            have moved := moveTo?_front reaches.coherent (List.takeWhile_prefix
              (p := fun character => !(set character == stopWhen)) (l := after.skipIgnored.remaining))
            refine ⟨?_, (looked.reaches.trans reaches).trans (.forward reaches.coherent _)⟩
            simp only [List.isEmpty_cons, Bool.false_eq_true, if_false, moved]
            rfl

theorem matchAt?_bytes (scanner : Scanner) (literal crossed rest : List Char)
    (whole : scanner.remaining = crossed ++ rest) :
    scanner.bytes.matchAt? (scanner.location + byteLength crossed) literal =
      some (if startsWith scanner.caseSensitive literal rest then some (byteLength (rest.take literal.length))
        else none) := by
  have cut := cut?_append (scanner.passed.reverse ++ crossed) rest
  rw [List.append_assoc, ← whole, byteLength_append, byteLength_reverse] at cut
  have matched := ByteScanner.matchLength?_indexed scanner.caseSensitive 0 literal rest
  rw [Nat.zero_add] at matched
  have own : cut? (scanner.location + byteLength crossed) scanner.bytes.text = _ := cut
  simp only [ByteScanner.matchAt?, own, bind, Option.bind]
  exact congrArg some matched

theorem scanLiteral_tracks (coherent : Coherent here) (literal : String) :
    Tracks here (here.bytes.scanLiteral? literal) (here.scanLiteral literal) := by
  obtain ⟨same, reaches⟩ := skipIgnored?_bytes coherent
  have matched := matchAt?_bytes here.skipIgnored literal.toList [] _ rfl
  have limit := atLimit_bytes here.skipIgnored
  simp only [ByteScanner.scanLiteral?, scanLiteral, same, bind, Option.bind]
  cases ended : here.skipIgnored.remaining.isEmpty with
  | true =>
      rw [ended] at limit
      rw [if_pos (of_decide_eq_true limit)]
      exact ⟨rfl, reaches⟩
  | false =>
      rw [ended] at limit
      rw [if_neg (of_decide_eq_false limit)]
      rw [byteLength, Nat.add_zero] at matched
      rw [location_bytes, matched]
      cases startsWith here.skipIgnored.caseSensitive literal.toList here.skipIgnored.remaining with
      | false => exact ⟨rfl, reaches⟩
      | true =>
          have moved := moveTo?_forward reaches.coherent literal.toList.length
          refine ⟨?_, reaches.trans (.forward reaches.coherent _)⟩
          simp only [if_true, moved]
          rfl

theorem scanKeyword_tracks (coherent : Coherent here) (keyword : String) :
    Tracks here (here.bytes.scanKeyword? keyword) (here.scanKeyword keyword) := by
  have literal := scanLiteral_tracks coherent keyword
  unfold ByteScanner.scanKeyword? scanKeyword
  rw [literal.same]
  cases taken : here.scanLiteral keyword with
  | mk found after =>
    rw [taken] at literal
    cases found with
    | false => exact ⟨rfl, literal.reaches⟩
    | true =>
        simp only [bind, Option.bind, remaining?_bytes, peek]
        cases keyword.toList.getLast?.any CharClass.continuesKeyword with
        | false => exact ⟨rfl, literal.reaches⟩
        | true =>
            by_cases goesOn : after.remaining.head?.any CharClass.continuesKeyword = true
            · simp only [goesOn, Bool.not_true, Bool.false_eq_true, Bool.and_self, if_true, if_false]
              refine ⟨?_, .back (.refl coherent) literal.reaches⟩
              rw [bytes_backTo literal.reaches.text]
              rfl
            · simp only [goesOn, Bool.not_true, Bool.false_eq_true, Bool.true_and, if_true, if_false]
              exact ⟨rfl, literal.reaches⟩

theorem findLiteral?_bytes (scanner : Scanner) (literal : List Char) (crossed rest : List Char)
    (whole : scanner.remaining = crossed ++ rest) :
    scanner.bytes.findLiteral? literal (indexed (byteLength crossed) rest) =
      some (scanner.location +
        byteLength (crossed ++ rest.take (distanceTo scanner.caseSensitive literal rest))) := by
  induction rest generalizing crossed with
  | nil =>
      rw [List.append_nil] at whole
      simp only [indexed, ByteScanner.findLiteral?, distanceTo, length_bytes, whole, List.take_nil, List.append_nil]
  | cons character rest ih =>
      have onward := ih (crossed ++ [character]) (by simpa using whole)
      simp only [indexed, ByteScanner.findLiteral?, distanceTo]
      rw [location_bytes, matchAt?_bytes scanner literal crossed _ whole]
      cases startsWith scanner.caseSensitive literal (character :: rest) with
      | true => simp [bind, Option.bind, pure]
      | false => simpa [bind, Option.bind, byteLength, Nat.add_assoc] using onward

theorem distanceTo_le (caseSensitive : Bool) (literal text : List Char) :
    distanceTo caseSensitive literal text ≤ text.length := by
  induction text with
  | nil => exact Nat.le_refl 0
  | cons character text ih =>
      rw [distanceTo]
      split
      · exact Nat.zero_le _
      · exact Nat.succ_le_succ ih

theorem scanUpToLiteral_tracks (coherent : Coherent here) (literal : String) :
    Tracks here (here.bytes.scanUpToLiteral? literal) (here.scanUpToLiteral literal) := by
  have found := findLiteral?_bytes here literal.toList [] here.remaining rfl
  have within := distanceTo_le here.caseSensitive literal.toList here.remaining
  have start : indexed 0 here.remaining = indexed (byteLength []) here.remaining := rfl
  simp only [ByteScanner.scanUpToLiteral?, scanUpToLiteral, remaining?_bytes, bind, Option.bind, start, found,
    List.nil_append]
  rw [location_bytes]
  cases ahead : distanceTo here.caseSensitive literal.toList here.remaining with
  | zero => exact ⟨if_pos rfl, .refl coherent⟩
  | succ distance =>
      have nonempty := length_le_byteLength (here.remaining.take (distance + 1))
      rw [List.length_take] at nonempty
      have moved := moveTo?_forward coherent (distance + 1)
      have cut := between?_append here.passed.reverse (here.remaining.take (distance + 1))
        (here.remaining.drop (distance + 1))
      rw [List.take_append_drop, byteLength_reverse] at cut
      refine ⟨?_, .forward coherent _⟩
      rw [if_neg (by omega), moved]
      have slice : between? here.location (here.location + byteLength (here.remaining.take (distance + 1)))
        here.bytes.text = _ := cut
      dsimp only
      rw [slice]
      rfl

theorem scanNumber_tracks {α : Type} (coherent : Coherent here) (parse : List Char → Option α) :
    Tracks here (here.bytes.scanNumber? parse) (here.scanNumber parse) := by
  obtain ⟨same, reaches⟩ := skipIgnored?_bytes coherent
  have loop := ByteScanner.lastNumber?_indexed parse [] here.skipIgnored.remaining none nofun
  simp only [List.nil_append, List.length_nil] at loop
  simp only [ByteScanner.scanNumber?, scanNumber, same, remaining?_bytes, bind, Option.bind, loop]
  split
  next =>
    obtain ⟨front, number, tried, -, -, last⟩ | ⟨-, last⟩ :=
      lastNumber_cases parse [] none here.skipIgnored.remaining
    · have moved := moveTo?_front reaches.coherent tried.isFront
      rw [ByteScanner.byteLength_of_numeric tried.numeric] at moved
      rw [last]
      refine ⟨?_, reaches.trans (.forward reaches.coherent _)⟩
      simp only [List.nil_append, location_bytes, moved]
      rfl
    · rw [last]
      exact ⟨rfl, reaches⟩
  next => exact ⟨rfl, reaches⟩

/-- By bytes no call cuts a character, and it answers what it answers by characters. -/
theorem run_tracks (coherent : Coherent here) (call : Call) :
    Tracks here (call.runBytes? here.bytes) (call.run here) := by
  cases call with
  | literal text => exact (scanLiteral_tracks coherent text).map Answer.flag
  | keyword word => exact (scanKeyword_tracks coherent word).map Answer.flag
  | characters set =>
      have tracks := scanRun_tracks coherent set false
      simp only [beq_false, Bool.not_not] at tracks
      exact tracks.map Answer.text
  | upToCharacters set =>
      have tracks := scanRun_tracks coherent set true
      simp only [beq_true] at tracks
      exact tracks.map Answer.text
  | upToLiteral text => exact (scanUpToLiteral_tracks coherent text).map Answer.text
  | float => exact (scanNumber_tracks coherent _).map Answer.float
  | int64 => exact (scanNumber_tracks coherent _).map Answer.int64
  | advance => exact (advance_tracks coherent).map Answer.character
  | skipIgnored =>
      obtain ⟨same, reaches⟩ := skipIgnored?_bytes coherent
      exact ⟨congrArg (Option.map _) same, reaches⟩
  | atEnd => exact (atEnd_tracks coherent).map Answer.flag
  | setLocation location =>
      have moved := setLocation?_bytes coherent location
      exact ⟨congrArg (Option.map _) moved, text_setLocation _ _, here.rewound.furthest_le_forward _,
        coherent.rewound.forward _, _, .move (.stay _) moved⟩
  | setSkips skips =>
      exact ⟨rfl, rfl, Nat.le_refl _, ⟨coherent.within, coherent.inText, coherent.line⟩, _,
        .setSkips (.stay _) skips⟩
  | setCaseSensitive caseSensitive =>
      exact ⟨rfl, rfl, Nat.le_refl _, ⟨coherent.within, coherent.inText, coherent.line⟩, _,
        .setCaseSensitive (.stay _) caseSensitive⟩

theorem runAll_bytes (coherent : Coherent here) (calls : List Call) :
    Call.runAllBytes? calls here.bytes = some (Call.runAll calls here).bytes ∧
      Reaches here (Call.runAll calls here) := by
  induction calls generalizing here with
  | nil => exact ⟨rfl, .refl coherent⟩
  | cons call calls ih =>
      have tracks := run_tracks coherent call
      obtain ⟨same, reaches⟩ := ih tracks.reaches.coherent
      refine ⟨?_, tracks.reaches.trans reaches⟩
      simp only [Call.runAllBytes?, List.foldlM_cons, tracks.same, Option.map_some, bind, Option.bind]
      exact same

/-- Whatever a scanner is called with, in whatever order, no call cuts a character: its offset is where a
character begins or at the end of the text, and not beyond the furthest offset that it ever was at. The line
is one more than the newlines before that offset, whether they were passed once or often, and never
decreases. An offset from outside leads to the last such place that is not beyond it. -/
theorem positions_and_lines_cohere (text : String) (calls : List Call) :
    let start := ByteScanner.ofText text.toList
    ∃ stop, Call.runAllBytes? calls start = some stop ∧
      (stop.text = text.toList ∧ String.Pos.Raw.IsValid text ⟨stop.location⟩) ∧
      (ByteScanner.Walks start stop ∧
        ∀ places, ByteScanner.Walk start places stop → stop.highWater = places.foldl max 0) ∧
      stop.location ≤ stop.highWater ∧
      (∃ before behind, before ++ behind = text.toList ∧ byteLength before = stop.highWater ∧
        stop.line = 1 + before.count '\n') ∧
      (∀ further, ∃ later, Call.runAllBytes? (calls ++ further) start = some later ∧ stop.line ≤ later.line) ∧
      ∀ offset, ∃ moved, stop.setLocation? offset = some moved ∧ moved.location ≤ offset ∧
        ∀ boundary ≤ offset, String.Pos.Raw.IsValid text ⟨boundary⟩ → boundary ≤ moved.location := by
  intro start
  have begins : Coherent (ofText text.toList) := coherent_ofText text.toList
  obtain ⟨same, reaches⟩ := runAll_bytes begins calls
  generalize ended : Call.runAll calls (ofText text.toList) = stop at same reaches
  have whole : stop.text = text.toList := reaches.text
  have within : start.location ≤ start.highWater := Nat.le_refl 0
  refine ⟨stop.bytes, same, ⟨whole, ?boundary⟩, ⟨reaches.walks, fun places walk => walk.highWater_eq within⟩,
    reaches.coherent.location_le, ?line, ?further, ?offset⟩
  case boundary =>
    rw [isValid_iff, ← whole]
    exact ⟨_, ⟨_, rfl⟩, byteLength_reverse _⟩
  case line =>
    rw [← whole]
    exact ⟨_, _, List.take_append_drop _ _, rfl, reaches.coherent.line⟩
  case further =>
    intro further
    obtain ⟨later, walksOn⟩ := runAll_bytes begins (calls ++ further)
    refine ⟨_, later, ?_⟩
    obtain ⟨-, reachesOn⟩ := runAll_bytes reaches.coherent further
    obtain ⟨more, walk⟩ := reachesOn.walks
    rw [Call.runAll_append, ended]
    exact walk.line_le
  case offset =>
    intro offset
    obtain ⟨fits, most⟩ := byteLength_charactersWithin offset stop.text
    refine ⟨_, setLocation?_bytes reaches.coherent offset, ?_, fun boundary bound isValid => ?_⟩
    · rw [location_bytes, location_setLocation]
      exact fits
    · obtain ⟨front, isFront, rfl⟩ := isValid_iff.mp isValid
      rw [location_bytes, location_setLocation]
      exact most front (whole ▸ isFront) bound

end Scanner

end PredicateRules
