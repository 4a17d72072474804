/-!
# Sinks

A program delivers its output in chunks.  What takes the chunks is a sink: a state, and a step
that takes one chunk and may fail.  A step that fails leaves a state too, since part of the chunk
may have been taken.  Behind a buffer, chunks wait until there are enough of them.
-/

namespace Stencil

/-- A consumer of text with states of type `σ` and failures of type `ε`. -/
structure Sink (σ ε : Type) where
  accept : σ → String → σ × Option ε

/-- Failures that do not occur. -/
abbrev Never := Empty

namespace Sink

/-- Takes every chunk as it is. -/
def total {σ : Type} (take : σ → String → σ) : Sink σ Never :=
  ⟨fun state chunk => (take state chunk, none)⟩

/-- Collects the chunks in order. -/
def chunks : Sink (Array String) Never :=
  total Array.push

def string : Sink String Never :=
  total String.append

def ofFunction {σ : Type} (take : String → σ → σ) : Sink σ Never :=
  total fun state chunk => take chunk state

/-- Writes the bytes of each chunk to something that takes bytes and may fail part of the way. -/
def writer {σ ε : Type} (write : σ → ByteArray → σ × Option ε) : Sink σ ε :=
  ⟨fun state chunk => write state chunk.toUTF8⟩

end Sink

/-- Bytes that have been written, and how many more there is room for; without a bound there is
always room. -/
structure BoundedBytes where
  written : ByteArray
  room : Option Nat

namespace BoundedBytes

def empty (room : Option Nat) : BoundedBytes := ⟨ByteArray.empty, room⟩

/-- Writes as many bytes as there is room for; fails when there are more. -/
def write {ε : Type} (failure : ε) (state : BoundedBytes) (bytes : ByteArray) :
    BoundedBytes × Option ε :=
  match state.room with
  | none => (⟨state.written ++ bytes, none⟩, none)
  | some room =>
    if bytes.size ≤ room then (⟨state.written ++ bytes, some (room - bytes.size)⟩, none)
    else (⟨state.written ++ bytes.extract 0 room, some 0⟩, some failure)

end BoundedBytes

/-- Bytes that were passed on, and bytes that wait for more to come. -/
structure BufferedBytes where
  passed : BoundedBytes
  waiting : ByteArray

namespace BufferedBytes

def empty (room : Option Nat) : BufferedBytes := ⟨.empty room, .empty⟩

/-- Passes on what waits.  What there is no room for goes on waiting. -/
def flush {ε : Type} (failure : ε) (state : BufferedBytes) : BufferedBytes × Option ε :=
  let (passed, refused) := state.passed.write failure state.waiting
  let taken := passed.written.size - state.passed.written.size
  (⟨passed, state.waiting.extract taken state.waiting.size⟩, refused)

/-- Passes on what waits, unless `size` more bytes can wait with it. -/
def makeRoom {ε : Type} (failure : ε) (capacity size : Nat) (state : BufferedBytes) :
    BufferedBytes × Option ε :=
  if capacity < state.waiting.size + size then state.flush failure else (state, none)

/-- Takes bytes behind those that wait.  As many bytes as the buffer holds do not wait at all. -/
def write {ε : Type} (failure : ε) (capacity : Nat) (state : BufferedBytes) (bytes : ByteArray) :
    BufferedBytes × Option ε :=
  match state.makeRoom failure capacity bytes.size with
  | (state, some failure) => (state, some failure)
  | (state, none) =>
    if capacity ≤ bytes.size then
      let (passed, refused) := state.passed.write failure bytes
      (⟨passed, state.waiting⟩, refused)
    else (⟨state.passed, state.waiting ++ bytes⟩, none)

end BufferedBytes

/-- Writes the bytes of each chunk through a buffer. -/
def Sink.buffered {ε : Type} (failure : ε) (capacity : Nat) : Sink BufferedBytes ε :=
  .writer (BufferedBytes.write failure capacity)

end Stencil
