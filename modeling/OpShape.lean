import OpShape.Builtin.Backward
import OpShape.Builtin.Broadcast
import OpShape.Builtin.Conv
import OpShape.Builtin.Convert
import OpShape.Builtin.Creation
import OpShape.Builtin.Entry
import OpShape.Builtin.InPlace
import OpShape.Builtin.Index
import OpShape.Builtin.Layout
import OpShape.Builtin.Library
import OpShape.Builtin.Loss
import OpShape.Builtin.Matmul
import OpShape.Builtin.Norm
import OpShape.Builtin.Pad
import OpShape.Builtin.Pool
import OpShape.Builtin.Reduce
import OpShape.Builtin.Scalar
import OpShape.Builtin.Softmax
import OpShape.Builtin.Unary
import OpShape.Call.Arg
import OpShape.Call.Bind
import OpShape.Call.Signature
import OpShape.CaseTable
import OpShape.CommandLine
import OpShape.Decimal.FloatRead
import OpShape.Decimal.FloatText
import OpShape.Decimal.Integer
import OpShape.Decimal.Shortest
import OpShape.Fault
import OpShape.Files.Basic
import OpShape.Files.Tree
import OpShape.Generate
import OpShape.Invocation
import OpShape.Json.Basic
import OpShape.Json.Parser
import OpShape.Json.Printer
import OpShape.Json.Token
import OpShape.Library
import OpShape.Main
import OpShape.Manifest
import OpShape.OpName
import OpShape.Operator.Activation
import OpShape.Operator.Args
import OpShape.Operator.Binary
import OpShape.Operator.Broadcast
import OpShape.Operator.Conv
import OpShape.Operator.Creation
import OpShape.Operator.Error
import OpShape.Operator.Index
import OpShape.Operator.Layout
import OpShape.Operator.Loss
import OpShape.Operator.Matmul
import OpShape.Operator.Norm
import OpShape.Operator.Pad
import OpShape.Operator.Pool
import OpShape.Operator.Reduce
import OpShape.Operator.Softmax
import OpShape.Operator.Table
import OpShape.Operator.Unary
import OpShape.Oracle
import OpShape.Oracle.Reference
import OpShape.Proofs.Builtin.Arity
import OpShape.Proofs.Builtin.Entry
import OpShape.Proofs.Builtin.Unbroken
import OpShape.Proofs.Call.Acceptance
import OpShape.Proofs.Call.Bind
import OpShape.Proofs.Call.InvocationText
import OpShape.Proofs.Call.Kind
import OpShape.Proofs.Call.Projection
import OpShape.Proofs.Call.SameBinding
import OpShape.Proofs.Call.SameCall
import OpShape.Proofs.Call.SignatureText
import OpShape.Proofs.Decimal.Literal
import OpShape.Proofs.Decimal.Text
import OpShape.Proofs.Json.Read
import OpShape.Proofs.Json.Record
import OpShape.Proofs.Json.Scan
import OpShape.Proofs.Keyed
import OpShape.Proofs.Library.History
import OpShape.Proofs.Manifest
import OpShape.Proofs.OpName
import OpShape.Proofs.Operator.Adaptive
import OpShape.Proofs.Operator.AdvancedIndex
import OpShape.Proofs.Operator.Agreement
import OpShape.Proofs.Operator.Arity
import OpShape.Proofs.Operator.Broadcast
import OpShape.Proofs.Operator.Concat
import OpShape.Proofs.Operator.ConcatParts
import OpShape.Proofs.Operator.Conv
import OpShape.Proofs.Operator.ConvGroups
import OpShape.Proofs.Operator.Convolve
import OpShape.Proofs.Operator.Coverage
import OpShape.Proofs.Operator.Elementwise
import OpShape.Proofs.Operator.Expansion
import OpShape.Proofs.Operator.Gather
import OpShape.Proofs.Operator.Index
import OpShape.Proofs.Operator.IndexSelect
import OpShape.Proofs.Operator.LaneUpdate
import OpShape.Proofs.Operator.Layout
import OpShape.Proofs.Operator.Loss
import OpShape.Proofs.Operator.Marks
import OpShape.Proofs.Operator.Matmul
import OpShape.Proofs.Operator.Maxima
import OpShape.Proofs.Operator.Motion
import OpShape.Proofs.Operator.Norm
import OpShape.Proofs.Operator.Order
import OpShape.Proofs.Operator.Pad
import OpShape.Proofs.Operator.PadLaws
import OpShape.Proofs.Operator.PadPlaces
import OpShape.Proofs.Operator.PadPlan
import OpShape.Proofs.Operator.Pool
import OpShape.Proofs.Operator.Rearrange
import OpShape.Proofs.Operator.Reduce
import OpShape.Proofs.Operator.SameCalls
import OpShape.Proofs.Operator.SamePicks
import OpShape.Proofs.Operator.Select
import OpShape.Proofs.Operator.SingleIndex
import OpShape.Proofs.Operator.Softmax
import OpShape.Proofs.Operator.Stacks
import OpShape.Proofs.Operator.Stretch
import OpShape.Proofs.Operator.TopEntries
import OpShape.Proofs.Operator.TopK
import OpShape.Proofs.Operator.Unary
import OpShape.Proofs.Operator.View
import OpShape.Proofs.Operator.Window
import OpShape.Proofs.Operator.Write
import OpShape.Proofs.Outcome
import OpShape.Proofs.Registry.Check
import OpShape.Proofs.Registry.Drift
import OpShape.Proofs.Registry.Grammar
import OpShape.Proofs.Registry.Loading
import OpShape.Proofs.Registry.Reading
import OpShape.Proofs.Registry.Schema
import OpShape.Proofs.Rule.Broadcast
import OpShape.Proofs.Rule.Concat
import OpShape.Proofs.Rule.Convolution
import OpShape.Proofs.Rule.Places
import OpShape.Proofs.Rule.Reads
import OpShape.Proofs.Rule.Reduce
import OpShape.Proofs.Rule.Unbroken
import OpShape.Proofs.Rule.View
import OpShape.Proofs.Run.Generate
import OpShape.Proofs.Run.NameOrder
import OpShape.Proofs.Run.Names
import OpShape.Proofs.Run.Order
import OpShape.Proofs.Run.Publish
import OpShape.Proofs.Run.Trial
import OpShape.Proofs.Tensor.Correspondence
import OpShape.Proofs.Tensor.Entry
import OpShape.Proofs.Tensor.Group
import OpShape.Proofs.Tensor.Lane
import OpShape.Proofs.Tensor.LaneOrder
import OpShape.Proofs.Tensor.Offset
import OpShape.Proofs.Tensor.Part
import OpShape.Proofs.Tensor.Partition
import OpShape.Proofs.Tensor.Permute
import OpShape.Proofs.Tensor.Reorder
import OpShape.Proofs.Tensor.RowMajor
import OpShape.Proofs.Text.Balanced
import OpShape.Proofs.Text.Cut
import OpShape.Proofs.Text.Parts
import OpShape.Proofs.Text.Plain
import OpShape.Proofs.Text.Quoted
import OpShape.Proofs.Unbroken
import OpShape.Publish
import OpShape.Registry.Basic
import OpShape.Registry.Check
import OpShape.Registry.File
import OpShape.Registry.Schema
import OpShape.Registry.Table
import OpShape.Rule.Basic
import OpShape.Rule.Broadcast
import OpShape.Rule.Error
import OpShape.Rule.Index
import OpShape.Rule.Layout
import OpShape.Rule.Matmul
import OpShape.Rule.Pad
import OpShape.Rule.Reduce
import OpShape.Rule.Window
import OpShape.Settings
import OpShape.Shape
import OpShape.Sizes
import OpShape.Tensor.Basic
import OpShape.Tensor.Group
import OpShape.Tensor.Lane
import OpShape.Tensor.Offset
import OpShape.Tensor.Permute
import OpShape.Tensor.Scalar
import OpShape.Text.Blank
import OpShape.Text.Printable
import OpShape.Text.Quoted
import OpShape.Text.Split
import OpShape.Verify
