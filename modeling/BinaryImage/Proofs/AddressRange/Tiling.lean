import BinaryImage.Proofs.Address.ExactResults
import BinaryImage.Proofs.AddressRange.Enclosure
import Mathlib.Logic.ExistsUnique

/-!
# Tilings

Ranges are laid end to end, each from the end of the one before. Main statement: if the sum of all
lengths fits above the start, the ranges tile the one that they make up. Every address of the whole
lies in exactly one of them, and two of them meet if all between them are empty.
-/

namespace BinaryImage.AddressRange

open Address (exactSum exactSum_nil exactSum_cons exactSum_append)

/-- Lays ranges of given lengths end to end. -/
def layTiles (start : UInt64) : List UInt64 → Checked (List AddressRange)
  | [] => pure []
  | length :: rest => do
    let next ← stop ⟨start, length⟩
    let later ← layTiles next rest
    return ⟨start, length⟩ :: later

/-- The start and the lengths in front of a position, among the natural numbers: the boundary
between that tile and the one before. -/
def boundary (start : UInt64) (lengths : List UInt64) (position : Nat) : Nat :=
  start.toNat + exactSum (lengths.take position)

def tile (start : UInt64) (lengths : List UInt64) (position : Fin lengths.length) : AddressRange :=
  ⟨UInt64.ofNat (boundary start lengths position), lengths.get position⟩

/-- The range that all tiles make up. -/
def tiled (start : UInt64) (lengths : List UInt64) : AddressRange :=
  ⟨start, UInt64.ofNat (exactSum lengths)⟩

/-- A row of ranges leaves no gap in a whole one, does not overlap, and does not reach beyond it;
and where two of the row meet, there is nothing between them. -/
structure Tiles {count : Nat} (whole : AddressRange) (row : Fin count → AddressRange) : Prop where
  covers : ∀ address, whole.Contains address → ∃! position, (row position).Contains address
  within : ∀ address position, (row position).Contains address → whole.Contains address
  encloses : ∀ position, whole.Encloses (row position)
  meets_iff : ∀ first second, first < second →
    ((row first).Meets (row second) ↔
      ∀ between, first < between → between < second → (row between).length = 0)

variable {start : UInt64} {lengths : List UInt64}

/-! ## Boundaries -/

theorem boundary_zero (start : UInt64) (lengths : List UInt64) :
    boundary start lengths 0 = start.toNat :=
  rfl

theorem boundary_length (start : UInt64) (lengths : List UInt64) :
    boundary start lengths lengths.length = start.toNat + exactSum lengths := by
  rw [boundary, List.take_length]

theorem boundary_succ (start : UInt64) (position : Fin lengths.length) :
    boundary start lengths (position + 1) =
      boundary start lengths position + (lengths.get position).toNat := by
  have split : lengths.take (position + 1) = lengths.take position ++ [lengths.get position] :=
    List.take_succ_eq_append_getElem position.isLt
  rw [boundary, boundary, split, exactSum_append, exactSum_cons, exactSum_nil, Nat.add_zero,
    Nat.add_assoc]

theorem boundary_mono
    (start : UInt64) (lengths : List UInt64) {first second : Nat} (order : first ≤ second) :
    boundary start lengths first ≤ boundary start lengths second := by
  obtain ⟨count, rfl⟩ := Nat.exists_eq_add_of_le order
  rw [boundary, boundary, List.take_add, exactSum_append]
  omega

/-- Between two boundaries there are only empty tiles if and only if they coincide. -/
theorem boundary_eq_iff
    (start : UInt64) {first second : Nat} (order : first ≤ second)
    (inside : second ≤ lengths.length) :
    boundary start lengths first = boundary start lengths second ↔
      ∀ between : Fin lengths.length, first ≤ between → between < second →
        lengths.get between = 0 := by
  constructor
  · -- A tile in between that is not empty would push the boundaries apart.
    intro same between above below
    have before := boundary_mono start lengths above
    have behind := boundary_mono start lengths (Nat.add_one_le_iff.mpr below)
    have grows := boundary_succ start between
    apply UInt64.toNat_inj.mp
    change (lengths.get between).toNat = 0
    omega
  · intro empty
    induction order with
    | refl => rfl
    | @step second order inductionHypothesis =>
        have emptyLast : lengths.get ⟨second, inside⟩ = 0 :=
          empty ⟨second, inside⟩ order (Nat.lt_succ_self second)
        have grows := boundary_succ start (⟨second, inside⟩ : Fin lengths.length)
        rw [emptyLast] at grows
        rw [inductionHypothesis (Nat.le_of_succ_le inside)
          fun between above below => empty between above (Nat.lt_succ_of_lt below)]
        exact grows.symm

theorem exists_between_boundaries
    {address count : Nat} (inside : count ≤ lengths.length) (above : start.toNat ≤ address)
    (below : address < boundary start lengths count) :
    ∃ position : Fin lengths.length,
      boundary start lengths position ≤ address ∧
        address < boundary start lengths (position + 1) := by
  -- The induction goes down to the last boundary that is not above the address.
  induction count with
  | zero =>
      rw [boundary_zero] at below
      exact absurd below (Nat.not_lt.mpr above)
  | succ count inductionHypothesis =>
      by_cases earlier : address < boundary start lengths count
      · exact inductionHypothesis (Nat.le_of_succ_le inside) earlier
      · exact ⟨⟨count, inside⟩, Nat.le_of_not_lt earlier, below⟩

/-! ## Single tiles -/

section Fitting

variable (fits : start.toNat + exactSum lengths < UInt64.size)

include fits

theorem boundary_lt_size (position : Nat) : boundary start lengths position < UInt64.size := by
  by_cases inside : position ≤ lengths.length
  · have order := boundary_mono start lengths inside
    rw [boundary_length] at order
    exact Nat.lt_of_le_of_lt order fits
  · rw [boundary, List.take_of_length_le (Nat.le_of_not_le inside)]
    exact fits

theorem toNat_location_tile (position : Fin lengths.length) :
    (tile start lengths position).location.toNat = boundary start lengths position :=
  UInt64.toNat_ofNat_of_lt' (boundary_lt_size fits position)

theorem exactStop_tile (position : Fin lengths.length) :
    (tile start lengths position).exactStop = boundary start lengths (position + 1) := by
  rw [exactStop, toNat_location_tile fits, boundary_succ, tile]

theorem tile_wellFormed (position : Fin lengths.length) :
    (tile start lengths position).WellFormed := by
  rw [wellFormed_iff, exactStop_tile fits]
  exact boundary_lt_size fits (position + 1)

theorem toNat_length_tiled : (tiled start lengths).length.toNat = exactSum lengths :=
  UInt64.toNat_ofNat_of_lt' (Nat.lt_of_le_of_lt (Nat.le_add_left _ _) fits)

theorem exactStop_tiled :
    (tiled start lengths).exactStop = boundary start lengths lengths.length := by
  rw [exactStop, toNat_length_tiled fits, boundary_length, tiled]

theorem tiled_wellFormed : (tiled start lengths).WellFormed := by
  rw [wellFormed_iff, exactStop_tiled fits]
  exact boundary_lt_size fits lengths.length

theorem contains_tile_iff {address : UInt64} {position : Fin lengths.length} :
    (tile start lengths position).Contains address ↔
      boundary start lengths position ≤ address.toNat ∧
        address.toNat < boundary start lengths (position + 1) := by
  rw [contains_iff, toNat_location_tile fits, exactStop_tile fits]
  exact and_iff_right (tile_wellFormed fits position)

theorem tiled_encloses (position : Fin lengths.length) :
    (tiled start lengths).Encloses (tile start lengths position) := by
  rw [encloses_iff, toNat_location_tile fits, exactStop_tile fits, exactStop_tiled fits]
  exact ⟨tiled_wellFormed fits, tile_wellFormed fits position,
    boundary_mono start lengths (Nat.zero_le position),
    boundary_mono start lengths (Nat.add_one_le_iff.mpr position.isLt)⟩

/-! ## Rows of tiles -/

theorem exists_contains_tile
    {address : UInt64} (member : (tiled start lengths).Contains address) :
    ∃ position, (tile start lengths position).Contains address := by
  obtain ⟨_, above, below⟩ := contains_iff.mp member
  rw [exactStop_tiled fits] at below
  obtain ⟨position, inTile⟩ := exists_between_boundaries (Nat.le_refl _) above below
  exact ⟨position, (contains_tile_iff fits).mpr inTile⟩

theorem not_contains_tile_of_lt
    {address : UInt64} {first second : Fin lengths.length} (order : first < second)
    (inFirst : (tile start lengths first).Contains address) :
    ¬(tile start lengths second).Contains address := by
  intro inSecond
  obtain ⟨_, below⟩ := (contains_tile_iff fits).mp inFirst
  obtain ⟨above, _⟩ := (contains_tile_iff fits).mp inSecond
  have apart := boundary_mono start lengths (Nat.add_one_le_iff.mpr order)
  exact Nat.lt_irrefl _ (Nat.lt_of_lt_of_le below (Nat.le_trans apart above))

theorem tile_position_unique
    {address : UInt64} {first second : Fin lengths.length}
    (inFirst : (tile start lengths first).Contains address)
    (inSecond : (tile start lengths second).Contains address) : first = second := by
  rcases Nat.lt_trichotomy first second with less | same | greater
  · exact absurd inSecond (not_contains_tile_of_lt fits less inFirst)
  · exact Fin.ext same
  · exact absurd inFirst (not_contains_tile_of_lt fits greater inSecond)

theorem tile_meets_iff {first second : Fin lengths.length} (order : first < second) :
    (tile start lengths first).Meets (tile start lengths second) ↔
      ∀ between, first < between → between < second →
        (tile start lengths between).length = 0 := by
  -- The first tile starts below the end of the second anyhow, so that it depends on their inner ends.
  have ordered := boundary_mono start lengths (Nat.add_one_le_iff.mpr order)
  have reaches := boundary_mono start lengths
    (Nat.le_trans (Nat.le_of_lt order) (Nat.le_succ second))
  rw [meets_iff, toNat_location_tile fits, toNat_location_tile fits, exactStop_tile fits,
    exactStop_tile fits]
  have touches := boundary_eq_iff start (Nat.add_one_le_iff.mpr order) (Nat.le_of_lt second.isLt)
  constructor
  · rintro ⟨_, _, _, touching⟩
    exact touches.mp (Nat.le_antisymm ordered touching)
  · intro empty
    exact ⟨tile_wellFormed fits first, tile_wellFormed fits second, reaches,
      Nat.le_of_eq (touches.mpr empty).symm⟩

theorem tiles_tile : Tiles (tiled start lengths) (tile start lengths) where
  covers address member := by
    obtain ⟨position, inTile⟩ := exists_contains_tile fits member
    exact ⟨position, inTile, fun _ inOther => tile_position_unique fits inOther inTile⟩
  within address position := contains_of_containsRange (tiled_encloses fits position)
  encloses := tiled_encloses fits
  meets_iff _ _ := tile_meets_iff fits

end Fitting

/-! ## Laying tiles -/

theorem boundary_cons_succ
    {length : UInt64} (inRange : start.toNat + length.toNat < UInt64.size) (rest : List UInt64)
    (position : Nat) :
    boundary start (length :: rest) (position + 1) = boundary (start + length) rest position := by
  rw [boundary, boundary, List.take_succ_cons, exactSum_cons, Checked.toNat_add_of_lt inRange,
    Nat.add_assoc]

theorem ofFn_tile_cons
    {length : UInt64} (inRange : start.toNat + length.toNat < UInt64.size) (rest : List UInt64) :
    List.ofFn (tile start (length :: rest)) =
      ⟨start, length⟩ :: List.ofFn (tile (start + length) rest) := by
  have first : tile start (length :: rest) 0 = ⟨start, length⟩ := by
    change AddressRange.mk (UInt64.ofNat start.toNat) length = ⟨start, length⟩
    rw [UInt64.ofNat_toNat]
  have later : ∀ position : Fin rest.length,
      tile start (length :: rest) position.succ = tile (start + length) rest position := by
    intro position
    rw [tile, tile, Fin.val_succ, boundary_cons_succ inRange]
    rfl
  rw [← first, ← funext later]
  exact List.ofFn_succ

/-- The end of every tile, the last one included, is an address. -/
theorem layTiles_eq_pure (fits : start.toNat + exactSum lengths < UInt64.size) :
    layTiles start lengths = pure (List.ofFn (tile start lengths)) := by
  induction lengths generalizing start with
  | nil => rfl
  | cons length rest inductionHypothesis =>
      rw [exactSum_cons, ← Nat.add_assoc] at fits
      have inRange : start.toNat + length.toNat < UInt64.size :=
        Nat.lt_of_le_of_lt (Nat.le_add_right _ _) fits
      have stops : stop ⟨start, length⟩ = pure (start + length) := stop_of_wellFormed inRange
      rw [← Checked.toNat_add_of_lt inRange] at fits
      rw [layTiles, stops, pure_bind, inductionHypothesis fits, pure_bind, ofFn_tile_cons inRange]

/-- If a start and the sum of some lengths make up an address, ranges of these lengths can be laid
end to end from the start. Each of them lies behind the exact sum of the lengths before it, and
together they tile the whole range from the start. -/
theorem layTiles_tiles
    (start : UInt64) (lengths : List UInt64) (fits : start.toNat + exactSum lengths < UInt64.size) :
    layTiles start lengths = pure (List.ofFn (tile start lengths)) ∧
      (∀ position,
        (tile start lengths position).location.toNat =
            start.toNat + exactSum (lengths.take position) ∧
          (tile start lengths position).length = lengths.get position) ∧
      ((tiled start lengths).location = start ∧
        (tiled start lengths).length.toNat = exactSum lengths) ∧
      Tiles (tiled start lengths) (tile start lengths) := by
  refine ⟨layTiles_eq_pure fits, ?_, ⟨rfl, toNat_length_tiled fits⟩, tiles_tile fits⟩
  intro position
  exact ⟨toNat_location_tile fits position, rfl⟩

/-- Lengths of tiles for the top range, some of them empty. -/
def topLengths : List UInt64 := [5, 0, 0, 0xa, 0]

def topTile (position : Fin 5) : AddressRange := tile topRange.location topLengths position

/-- The tiles of the top range end at the highest address. The address behind the first tile lies in
one of the others, the two empty ones before it left out; so the first tile meets that one, and it
does not meet the last. -/
theorem layTiles_tiles_topRange :
    topRange.location.toNat + exactSum topLengths < UInt64.size ∧
      layTiles topRange.location topLengths =
        pure [⟨0xfffffffffffffff0, 5⟩, ⟨0xfffffffffffffff5, 0⟩, ⟨0xfffffffffffffff5, 0⟩,
          ⟨0xfffffffffffffff5, 0xa⟩, ⟨addressMax, 0⟩] ∧
      (∃! position, (topTile position).Contains 0xfffffffffffffff5) ∧
      (topTile 0).Meets (topTile 3) ∧
      ¬(topTile 0).Meets (topTile 4) := by
  have fits : topRange.location.toNat + exactSum topLengths < UInt64.size := by decide
  obtain ⟨laid, _, _, covers, _, _, meets_iff⟩ :=
    layTiles_tiles topRange.location topLengths fits
  have first_meets_iff : ∀ second : Fin 5, 0 < second →
      ((topTile 0).Meets (topTile second) ↔
        ∀ between : Fin 5, 0 < between → between < second → (topTile between).length = 0) :=
    meets_iff (0 : Fin 5)
  refine ⟨fits, laid, covers _ rfl, ?_, ?_⟩
  · rw [first_meets_iff 3 (by decide)]
    decide
  · rw [first_meets_iff 4 (by decide)]
    decide

end BinaryImage.AddressRange
