import ScriptLib.Number.Double
import ScriptLib.Number.Binary
import ScriptLib.Number.Shortest
import ScriptLib.Number.Text
import ScriptLib.Number.Read
import ScriptLib.Number.Arith
import ScriptLib.Number.Word
import ScriptLib.Text.Blank
import ScriptLib.Text.Units
import ScriptLib.Value.Basic
import ScriptLib.Table.Basic
import ScriptLib.Heap.Basic
import ScriptLib.Heap.Equality
import ScriptLib.Heap.Hash
import ScriptLib.Number.Elementary
import ScriptLib.Error
import ScriptLib.Index
import ScriptLib.Random.Mulberry
import ScriptLib.Random.ChaCha
import ScriptLib.World
import ScriptLib.Text.Search
import ScriptLib.Text.Bytes
import ScriptLib.Text.CaseData
import ScriptLib.Text.Case
import ScriptLib.Intrinsic.Basic
import ScriptLib.Intrinsic.Collection
import ScriptLib.Random.Shuffle
import ScriptLib.Intrinsic.Order
import ScriptLib.Intrinsic.Math
import ScriptLib.Intrinsic.General
import ScriptLib.Text.Compact
import ScriptLib.Text.Letters
import ScriptLib.Unicode.Alias
import ScriptLib.Unicode.Age
import ScriptLib.Unicode.Break
import ScriptLib.Unicode.Category
import ScriptLib.Unicode.Fold
import ScriptLib.Unicode.Property
import ScriptLib.Unicode.Script
import ScriptLib.Regex.Charset
import ScriptLib.Regex.Classes
import ScriptLib.Regex.Syntax
import ScriptLib.Regex.Parse
import ScriptLib.Regex.Report
import ScriptLib.Regex.Core
import ScriptLib.Regex.Program
import ScriptLib.Regex.Utf8
import ScriptLib.Regex.Normal
import ScriptLib.Regex.Footprint
import ScriptLib.Regex.Search
import ScriptLib.Intrinsic.Text
import ScriptLib.Registry
import ScriptLib.Heap.Shape
import ScriptLib.Proofs.Table.Buckets
import ScriptLib.Proofs.Heap.Slot
import ScriptLib.Proofs.Table.Refinement
import ScriptLib.Proofs.Heap.Frame
import ScriptLib.Proofs.Table.Invariant
import ScriptLib.Proofs.Heap.Symmetry
import ScriptLib.Proofs.World.Clean
import ScriptLib.Proofs.Intrinsic.Failure
import ScriptLib.Proofs.Intrinsic.Frames
import ScriptLib.Proofs.Intrinsic.Dispatch
import ScriptLib.Proofs.Intrinsic.Offsets
import ScriptLib.Proofs.Intrinsic.Characters
import ScriptLib.Proofs.Text.Occurrences
import ScriptLib.Proofs.Text.Bytes
import ScriptLib.Proofs.Random.Streams
import ScriptLib.Proofs.Random.Bytes
import ScriptLib.Proofs.Intrinsic.Seeded
import ScriptLib.Proofs.Heap.StrictHash
import ScriptLib.Proofs.Random.FisherYates
import ScriptLib.Proofs.Intrinsic.StableSort
import ScriptLib.Proofs.Heap.OpenPairs
import ScriptLib.Proofs.Heap.Unfolding
import ScriptLib.Proofs.Intrinsic.Binding
import ScriptLib.Proofs.Number.Rounding
import ScriptLib.Proofs.Number.Reading
import ScriptLib.Proofs.Number.Shortest
import ScriptLib.Proofs.Number.RoundTrip
import ScriptLib.Proofs.Number.Grammar
import ScriptLib.Proofs.Intrinsic.Rejoin
import ScriptLib.Proofs.Number.Exact
import ScriptLib.Proofs.Intrinsic.Replace
import ScriptLib.Proofs.Intrinsic.MapSearch
import ScriptLib.Proofs.Number.Integers
import ScriptLib.Proofs.Number.ToInt32
import ScriptLib.Proofs.Index.Range
