import Stencil.Proofs.SinkDelivery
import Mathlib.Tactic

/-!
# Output with a limit

A writer takes bytes in pieces, and how large the pieces are is up to the
writer.  Here it takes a limited number of bytes in all and fails behind them.
What is left of a render is then settled by the limit alone: neither the cut of
the text into chunks nor that of the chunks into pieces makes a difference, and
the cut at the limit may go through a character.

`Fills` says this of one attempt to write.  It holds of a piece, is closed
under going on with more bytes, and so comes to hold of a chunk and of a whole
render.
-/

namespace Stencil

variable {σ ε : Type}

/-- Something that takes bytes.  A write takes a number of bytes from the front
of those it is offered, or fails; one that was interrupted is repeated and does
not count. -/
structure ByteWriter (σ ε : Type) where
  write : σ → ByteArray → σ × Except ε ℕ
  /-- The failure of a write that takes nothing. -/
  stalled : ε

namespace ByteWriter

/-- Writes until all bytes have been taken or a write fails.  Without bytes
nothing is written. -/
def writeAll (writer : ByteWriter σ ε) (state : σ) (bytes : ByteArray) :
    σ × Option ε :=
  if bytes.size = 0 then (state, none)
  else
    match writer.write state bytes with
    | (next, .error cause) => (next, some cause)
    | (next, .ok 0) => (next, some writer.stalled)
    | (next, .ok (count + 1)) =>
        writer.writeAll next (bytes.extract (count + 1) bytes.size)
termination_by bytes.size
decreasing_by
  rw [ByteArray.size_extract]
  omega

/-- The writer takes `limit` bytes in all, in pieces of any size, and every
write behind them fails.  `Holding` tells which bytes it has taken. -/
structure Limited (writer : ByteWriter σ ε) (limit : ℕ)
    (Holding : σ → ByteArray → Prop) : Prop where
  takes : ∀ {state taken bytes}, Holding state taken → bytes.size ≠ 0 →
    taken.size < limit →
      ∃ next count, writer.write state bytes = (next, .ok count) ∧
        0 < count ∧ count ≤ bytes.size ∧ taken.size + count ≤ limit ∧
        Holding next (taken ++ bytes.extract 0 count)
  fails : ∀ {state taken bytes}, Holding state taken → bytes.size ≠ 0 →
    limit ≤ taken.size →
      ∃ next, Holding next taken ∧
        (writer.write state bytes = (next, .ok 0) ∨
          ∃ cause, writer.write state bytes = (next, .error cause))

end ByteWriter

/-- Behind `taken`, those of the bytes were taken for which there was room, and
it failed unless that is all of them. -/
structure Fills (limit : ℕ) (Holding : σ → ByteArray → Prop)
    (taken bytes : ByteArray) (result : σ × Option ε) : Prop where
  holding : Holding result.1 (taken ++ bytes.extract 0 (limit - taken.size))
  taken_iff : result.2 = none ↔ taken.size + bytes.size ≤ limit

theorem extract_zero_of_size_le {bytes : ByteArray} {stop : ℕ}
    (hstop : bytes.size ≤ stop) : bytes.extract 0 stop = bytes := by
  apply ByteArray.ext
  rw [ByteArray.data_extract]
  exact Array.extract_eq_self_of_le hstop

theorem extract_append_rest (bytes : ByteArray) (count : ℕ) :
    bytes.extract 0 count ++ bytes.extract count bytes.size = bytes := by
  rw [ByteArray.extract_append_extract, Nat.zero_min]
  exact extract_zero_of_size_le (le_max_right _ _)

namespace Fills

variable {limit : ℕ} {Holding : σ → ByteArray → Prop}
  {taken first : ByteArray} {state next : σ}

theorem nothing (hstate : Holding state taken) (hroom : taken.size ≤ limit) :
    Fills limit Holding taken .empty (state, (none : Option ε)) := by
  constructor
  · rw [extract_zero_of_size_le (Nat.zero_le _), ByteArray.append_empty]
    exact hstate
  · simpa using hroom

/-- What has not failed has taken everything. -/
theorem room_of_taken
    (hfirst : Fills limit Holding taken first (next, (none : Option ε))) :
    taken.size + first.size ≤ limit :=
  hfirst.taken_iff.mp rfl

theorem holding_of_taken
    (hfirst : Fills limit Holding taken first (next, (none : Option ε))) :
    Holding next (taken ++ first) := by
  have hroom := hfirst.room_of_taken
  have hholding := hfirst.holding
  rw [extract_zero_of_size_le (by omega)] at hholding
  exact hholding

/-- Where there is no room left, nothing is taken. -/
theorem nothing_of_full {bytes : ByteArray} {cause : ε} (hnext : Holding next taken)
    (hfull : limit ≤ taken.size) (hsome : bytes.size ≠ 0) :
    Fills limit Holding taken bytes (next, some cause) := by
  constructor
  · rw [Nat.sub_eq_zero_of_le hfull, ByteArray.extract_same,
      ByteArray.append_empty]
    exact hnext
  · constructor
    · intro hnone
      contradiction
    · omega

theorem goOn (hfirst : Fills limit Holding taken first (next, (none : Option ε)))
    {second : ByteArray} {result : σ × Option ε}
    (hrest : Fills limit Holding (taken ++ first) second result) :
    Fills limit Holding taken (first ++ second) result := by
  have hroom := hfirst.room_of_taken
  obtain ⟨hholding, htaken⟩ := hrest
  rw [ByteArray.size_append] at hholding htaken
  constructor
  · rw [ByteArray.extract_append, Nat.zero_sub,
      extract_zero_of_size_le (by omega), Nat.sub_sub, ← ByteArray.append_assoc]
    exact hholding
  · rw [ByteArray.size_append, ← Nat.add_assoc]
    exact htaken

theorem stop {cause : ε} (hfirst : Fills limit Holding taken first (next, some cause))
    (second : ByteArray) :
    Fills limit Holding taken (first ++ second) (next, some cause) := by
  have hfull : ¬ taken.size + first.size ≤ limit := by
    intro hroom
    have hnone := hfirst.taken_iff.mpr hroom
    contradiction
  constructor
  · have hnothing : limit - taken.size - first.size = 0 := by omega
    rw [ByteArray.extract_append, Nat.zero_sub, hnothing, ByteArray.extract_same,
      ByteArray.append_empty]
    exact hfirst.holding
  · rw [ByteArray.size_append]
    constructor
    · intro hnone
      contradiction
    · omega

end Fills

/-! ## Pieces of a chunk -/

section

variable {writer : ByteWriter σ ε} {limit : ℕ} {Holding : σ → ByteArray → Prop}
  (hlimited : writer.Limited limit Holding)
include hlimited

/-- A write that takes something fills as much of the room as it takes. -/
theorem ByteWriter.Limited.piece_fills {state next : σ} {taken bytes : ByteArray}
    {count : ℕ} (hstate : Holding state taken) (hsome : bytes.size ≠ 0)
    (hwrite : writer.write state bytes = (next, .ok (count + 1))) :
    Fills limit Holding taken (bytes.extract 0 (count + 1))
      (next, (none : Option ε)) := by
  have hroom : taken.size < limit := by
    by_contra hfull
    obtain ⟨after, -, hnone | ⟨cause, hfails⟩⟩ :=
      hlimited.fails hstate hsome (Nat.le_of_not_lt hfull)
    · simp [hnone] at hwrite
    · simp [hfails] at hwrite
  obtain ⟨after, taking, htakes, -, hcount, hlimit, hafter⟩ :=
    hlimited.takes hstate hsome hroom
  rw [hwrite] at htakes
  obtain ⟨rfl, htaking⟩ := Prod.mk.inj htakes
  obtain rfl := Except.ok.inj htaking
  have hsize : (bytes.extract 0 (count + 1)).size = count + 1 := by
    rw [ByteArray.size_extract]
    omega
  have hwhole : (bytes.extract 0 (count + 1)).extract 0 (limit - taken.size) =
      bytes.extract 0 (count + 1) :=
    extract_zero_of_size_le (by omega)
  constructor
  · rw [hwhole]
    exact hafter
  · simp only [hsize, true_iff]
    exact hlimit

/-- A write that takes nothing comes behind the last byte there was room for. -/
theorem ByteWriter.Limited.full_of_fails {state next : σ}
    {taken bytes : ByteArray} (hstate : Holding state taken)
    (hsome : bytes.size ≠ 0)
    (hwrite : writer.write state bytes = (next, .ok 0) ∨
      ∃ cause, writer.write state bytes = (next, .error cause)) :
    limit ≤ taken.size ∧ Holding next taken := by
  have hfull : limit ≤ taken.size := by
    by_contra hroom
    obtain ⟨after, count, htakes, hcount, -⟩ :=
      hlimited.takes hstate hsome (Nat.lt_of_not_le hroom)
    rcases hwrite with hnone | ⟨cause, hfails⟩
    · obtain ⟨-, hcounts⟩ := Prod.mk.inj (htakes.symm.trans hnone)
      exact hcount.ne' (Except.ok.inj hcounts)
    · obtain ⟨-, hcounts⟩ := Prod.mk.inj (htakes.symm.trans hfails)
      contradiction
  obtain ⟨after, hafter, hend⟩ := hlimited.fails hstate hsome hfull
  have hnext : after = next := by
    rcases hwrite with hwrite | ⟨cause, hwrite⟩ <;>
      rcases hend with hend | ⟨other, hend⟩ <;>
      exact congrArg Prod.fst (hend.symm.trans hwrite)
  exact ⟨hfull, hnext ▸ hafter⟩

/-- A chunk fills the room there is, whatever its pieces. -/
theorem ByteWriter.Limited.writeAll_fills {state : σ} {taken : ByteArray}
    (hstate : Holding state taken) (hroom : taken.size ≤ limit)
    (bytes : ByteArray) :
    Fills limit Holding taken bytes (writer.writeAll state bytes) := by
  induction state, bytes using ByteWriter.writeAll.induct writer
    generalizing taken with
  | case1 state bytes hnone =>
      obtain rfl := ByteArray.size_eq_zero_iff.mp hnone
      rw [writeAll, if_pos hnone]
      exact .nothing hstate hroom
  | case2 state bytes hsome next cause hwrite =>
      obtain ⟨hfull, hnext⟩ :=
        hlimited.full_of_fails hstate hsome (.inr ⟨cause, hwrite⟩)
      rw [writeAll, if_neg hsome, hwrite]
      exact .nothing_of_full hnext hfull hsome
  | case3 state bytes hsome next hwrite =>
      obtain ⟨hfull, hnext⟩ := hlimited.full_of_fails hstate hsome (.inl hwrite)
      rw [writeAll, if_neg hsome, hwrite]
      exact .nothing_of_full hnext hfull hsome
  | case4 state bytes hsome next count hwrite ih =>
      have hpiece := hlimited.piece_fills hstate hsome hwrite
      have hleft : (taken ++ bytes.extract 0 (count + 1)).size ≤ limit := by
        rw [ByteArray.size_append]
        exact hpiece.room_of_taken
      have hrest := ih hpiece.holding_of_taken hleft
      have hall := hpiece.goOn hrest
      rw [extract_append_rest] at hall
      rw [writeAll, if_neg hsome, hwrite]
      exact hall

/-! ## Chunks of a render -/

theorem ByteWriter.Limited.offer_fills {state : σ} {taken : ByteArray}
    (hstate : Holding state taken) (hroom : taken.size ≤ limit)
    (chunks : List String) :
    Fills limit Holding taken (String.join chunks).toUTF8
      ((Sink.writer writer.writeAll).offer state chunks) := by
  induction chunks generalizing state taken with
  | nil => exact .nothing hstate hroom
  | cons chunk rest ih =>
      have hchunk := hlimited.writeAll_fills hstate hroom chunk.toUTF8
      have hbytes : (String.join (chunk :: rest)).toUTF8 =
          chunk.toUTF8 ++ (String.join rest).toUTF8 := by
        rw [String.join_cons]
        exact String.toByteArray_append
      rw [hbytes, Sink.offer]
      simp only [Sink.writer]
      split
      next next hnext =>
        rw [hnext] at hchunk
        have hleft : (taken ++ chunk.toUTF8).size ≤ limit := by
          rw [ByteArray.size_append]
          exact hchunk.room_of_taken
        exact hchunk.goOn (ih hchunk.holding_of_taken hleft)
      next next cause hnext =>
        rw [hnext] at hchunk
        exact hchunk.stop _

end

/-- What a limited writer takes of a render is the front of the text, up to the
limit and be it in the middle of a character.  The result is that of the render
if the text goes in as a whole, and the failure of the writer if it does not.  An
empty chunk is no write, so that it cannot fail. -/
theorem Template.render_limited {writer : ByteWriter σ ε} {limit : ℕ}
    {Holding : σ → ByteArray → Prop} (hlimited : writer.Limited limit Holding)
    {start : σ} (hstart : Holding start .empty) (template : Template)
    (data : Value) :
    let collected := template.render Sink.chunks data #[]
    let bytes := (String.join collected.output.toList).toUTF8
    let outcome := template.render (.writer writer.writeAll) data start
    Holding outcome.output (bytes.extract 0 (min limit bytes.size)) ∧
    (bytes.size ≤ limit → outcome.failure = collected.failure.map .ofNever) ∧
    (limit < bytes.size → ∃ cause, outcome.failure = some (.output cause)) ∧
    ∀ state, (Sink.writer writer.writeAll).accept state "" = (state, none) := by
  intro collected bytes outcome
  obtain ⟨hchunks, hresult⟩ := template.render_chunks data
  have hfills : Fills limit Holding .empty bytes
      ((Sink.writer writer.writeAll).offer start
        (template.program.rendering data).chunks) := by
    have hoffer := hlimited.offer_fills hstart (Nat.zero_le _)
      (template.program.rendering data).chunks
    rw [← hchunks] at hoffer ⊢
    exact hoffer
  obtain ⟨hholding, htaken⟩ := hfills
  rw [ByteArray.size_empty, Nat.zero_add] at htaken
  rw [ByteArray.size_empty, Nat.sub_zero, ByteArray.empty_append] at hholding
  have hfollows := template.render_follows (.writer writer.writeAll) data start
  have hfailure := hfollows.failure_eq
  refine ⟨?_, ?_, ?_, ?_⟩
  · rw [hfollows.output_eq]
    rcases Nat.le_total bytes.size limit with hroom | hfull
    · rw [min_eq_right hroom, extract_zero_of_size_le le_rfl]
      rwa [extract_zero_of_size_le hroom] at hholding
    · rw [min_eq_left hfull]
      exact hholding
  · intro hroom
    rw [hfailure, htaken.mpr hroom, Rendering.failure_eq_ofNever, ← hresult]
  · intro hfull
    obtain ⟨cause, hcause⟩ :=
      Option.ne_none_iff_exists'.mp (mt htaken.mp (Nat.not_le_of_lt hfull))
    exact ⟨cause, by rw [hfailure, hcause, Rendering.failure]⟩
  · intro state
    have hnothing : "".toUTF8.size = 0 := rfl
    show writer.writeAll state "".toUTF8 = (state, none)
    rw [ByteWriter.writeAll, if_pos hnothing]

/-! ## Bounded bytes -/

namespace BoundedBytes

/-- Takes up to `piece + 1` bytes at a time while there is room for them, and
nothing when there is none. -/
def inPieces (failure : ε) (piece : ℕ) : ByteWriter BoundedBytes ε where
  write state bytes :=
    let count := min (piece + 1) (min bytes.size (state.room.getD bytes.size))
    (⟨state.written ++ bytes.extract 0 count, state.room.map (· - count)⟩,
      .ok count)
  stalled := failure

/-- Bytes for which there is room may as well be written first. -/
theorem write_append (failure : ε) {state : BoundedBytes} {first : ByteArray}
    (hroom : ∀ room ∈ state.room, first.size ≤ room) (rest : ByteArray) :
    BoundedBytes.write failure
        ⟨state.written ++ first, state.room.map (· - first.size)⟩ rest =
      BoundedBytes.write failure state (first ++ rest) := by
  rcases state with ⟨written, _ | room⟩
  · simp [write, ByteArray.append_assoc]
  · have hfits : first.size ≤ room := hroom room rfl
    simp only [write, Option.map_some, ByteArray.size_append,
      ByteArray.append_assoc]
    by_cases hrest : rest.size ≤ room - first.size
    · rw [if_pos hrest, if_pos (by omega), Nat.sub_sub]
    · rw [if_neg hrest, if_neg (by omega), ByteArray.extract_append,
        Nat.zero_sub, extract_zero_of_size_le hfits]

/-- Whatever the pieces, they come to what is written at once. -/
theorem writeAll_inPieces (failure : ε) (piece : ℕ) (state : BoundedBytes)
    (bytes : ByteArray) :
    (inPieces failure piece).writeAll state bytes =
      BoundedBytes.write failure state bytes := by
  induction state, bytes using
      ByteWriter.writeAll.induct (inPieces failure piece) with
  | case1 state bytes hnone =>
      obtain rfl := ByteArray.size_eq_zero_iff.mp hnone
      rcases state with ⟨written, _ | room⟩ <;>
        simp [ByteWriter.writeAll, write]
  | case2 state bytes hsome next cause hwrite =>
      simp [inPieces] at hwrite
  | case3 state bytes hsome next hwrite =>
      rw [ByteWriter.writeAll, if_neg hsome, hwrite]
      simp only [inPieces, Prod.mk.injEq, Except.ok.injEq] at hwrite ⊢
      obtain ⟨rfl, hcount⟩ := hwrite
      rcases state with ⟨written, _ | room⟩
      · simp only [Option.getD_none, min_self] at hcount
        omega
      · obtain rfl : room = 0 := by
          simp only [Option.getD_some] at hcount
          omega
        simp [write, hsome]
  | case4 state bytes hsome next count hwrite ih =>
      rw [ByteWriter.writeAll, if_neg hsome, hwrite]
      simp only [ih]
      simp only [inPieces, Prod.mk.injEq, Except.ok.injEq] at hwrite
      obtain ⟨rfl, hcount⟩ := hwrite
      have hfirst : (bytes.extract 0 (count + 1)).size = count + 1 := by
        rw [ByteArray.size_extract]
        omega
      have hroom : ∀ room ∈ state.room,
          (bytes.extract 0 (count + 1)).size ≤ room := by
        intro room hroom
        rw [hroom, Option.getD_some] at hcount
        omega
      have happend := write_append failure hroom
        (bytes.extract (count + 1) bytes.size)
      rw [extract_append_rest, hfirst] at happend
      rw [hcount]
      exact happend

theorem limited_inPieces (failure : ε) (piece limit : ℕ) :
    (inPieces failure piece).Limited limit fun state taken =>
      state = ⟨taken, some (limit - taken.size)⟩ := by
  constructor
  · rintro state taken bytes rfl hsome hroom
    let count := min (piece + 1) (min bytes.size (limit - taken.size))
    have hsize : (bytes.extract 0 count).size = count := by
      rw [ByteArray.size_extract]
      omega
    refine ⟨_, count, rfl, by omega, by omega, by omega, ?_⟩
    rw [ByteArray.size_append, hsize, ← Nat.sub_sub]
    rfl
  · rintro state taken bytes rfl hsome hfull
    have hnone : limit - taken.size = 0 := Nat.sub_eq_zero_of_le hfull
    refine ⟨_, rfl, .inl ?_⟩
    simp [inPieces, hnone]

end BoundedBytes

/-- A limit inside of a character, and one that the text just reaches: the empty
chunk behind it goes in, and the render fails on its own. -/
theorem Template.render_limited_inside_character :
    let template : Template :=
      ⟨⟨none, [.literal "hé", .literal "", .substitute ⟨"x", []⟩], [], []⟩⟩
    let writer := BoundedBytes.inPieces "full" 0
    let Holding (limit : ℕ) (state : BoundedBytes) (taken : ByteArray) :=
      state = ⟨taken, some (limit - taken.size)⟩
    let sink := Sink.writer (BoundedBytes.write "full")
    let narrow := template.render sink .null (.empty (some 2))
    let exact := template.render sink .null (.empty (some 3))
    writer.Limited 2 (Holding 2) ∧ writer.Limited 3 (Holding 3) ∧
      narrow.output.written.data = #[104, 195] ∧
      (∃ cause, narrow.failure = some (.output cause)) ∧
      exact.output.written = "hé".toUTF8 ∧
      exact.failure = some (.undefinedVariable "x") := by
  intro template writer Holding sink narrow exact
  have hnarrow : writer.Limited 2 (Holding 2) :=
    BoundedBytes.limited_inPieces "full" 0 2
  have hexact : writer.Limited 3 (Holding 3) :=
    BoundedBytes.limited_inPieces "full" 0 3
  have hstart : Holding 2 (.empty (some 2)) .empty := rfl
  have hbegin : Holding 3 (.empty (some 3)) .empty := rfl
  obtain ⟨hfront, -, hfull, -⟩ := render_limited hnarrow hstart template .null
  obtain ⟨hall, hresult, -, -⟩ := render_limited hexact hbegin template .null
  have hwrite : writer.writeAll = BoundedBytes.write "full" := by
    funext state bytes
    exact BoundedBytes.writeAll_inPieces "full" 0 state bytes
  have hcollected : (template.render Sink.chunks .null #[]).output =
      #["hé", ""] := rfl
  have hundefined : (template.render Sink.chunks .null #[]).failure =
      some (.undefinedVariable "x") := rfl
  rw [hwrite, hcollected] at hfront hfull hall hresult
  rw [hundefined] at hresult
  refine ⟨hnarrow, hexact, ?_, hfull (by decide), ?_, hresult (by decide)⟩
  · have hwritten : narrow.output.written = _ :=
      congrArg BoundedBytes.written hfront
    rw [hwritten]
    decide
  · have hwritten : exact.output.written = _ :=
      congrArg BoundedBytes.written hall
    rw [hwritten]
    decide

end Stencil
