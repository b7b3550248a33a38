/-
# `OpShape.Registry.Table` — the schemas that come with the library.

One schema per operator that has a shape function, by families of operators.
-/
import OpShape.Registry.Basic

namespace OpShape.Registry

/-- Elementwise operators with one operand. -/
def unarySchemas : List String := [
  "aten::tanh(Tensor self) -> Tensor",
  "aten::erf(Tensor self) -> Tensor",
  "aten::sigmoid(Tensor self) -> Tensor",
  "aten::hardsigmoid(Tensor self) -> Tensor",
  "aten::square(Tensor self) -> Tensor",
  "aten::hardswish(Tensor self) -> Tensor",
  "aten::silu(Tensor self) -> Tensor",
  "aten::exp(Tensor self) -> Tensor",
  "aten::sin(Tensor self) -> Tensor",
  "aten::cos(Tensor self) -> Tensor",
  "aten::hardtanh(Tensor self, Scalar min_val=-1, Scalar max_val=1) -> Tensor",
  "aten::sqrt(Tensor self) -> Tensor",
  "aten::neg(Tensor self) -> Tensor",
  "aten::floor(Tensor self) -> Tensor",
  "aten::detach(Tensor(a) self) -> Tensor(a)",
  "aten::log2(Tensor self) -> Tensor",
  "aten::rsqrt(Tensor self) -> Tensor",
  "aten::abs(Tensor self) -> Tensor",
  "aten::reciprocal(Tensor self) -> Tensor",
  "aten::ceil(Tensor self) -> Tensor",
  "aten::log(Tensor self) -> Tensor",
  "aten::relu(Tensor self) -> Tensor",
  "aten::gelu(Tensor self, *, str approximate=\"none\") -> Tensor",
  "aten::leaky_relu(Tensor self, Scalar negative_slope=0.01) -> Tensor",
  "aten::clamp(Tensor self, Scalar? min=None, Scalar? max=None) -> Tensor",
  "aten::threshold(Tensor self, Scalar threshold, Scalar value) -> Tensor",
  "aten::dropout(Tensor input, float p, bool train) -> Tensor",
  "aten::bernoulli(Tensor self, *, Generator? generator=None) -> Tensor",
  "aten::tanh_backward(Tensor grad_output, Tensor output) -> Tensor",
  "aten::gelu_backward(Tensor grad_output, Tensor self, *, str approximate=\"none\") -> Tensor",
  "aten::threshold_backward(Tensor grad_output, Tensor self, Scalar threshold) -> Tensor",
  "aten::to.dtype(Tensor(a) self, ScalarType dtype, bool non_blocking=False, bool copy=False, " ++
    "MemoryFormat? memory_format=None) -> Tensor(a)",
  "aten::to.dtype_layout(Tensor(a) self, *, ScalarType? dtype=None, Layout? layout=None, " ++
    "Device? device=None, bool? pin_memory=None, bool non_blocking=False, bool copy=False, " ++
    "MemoryFormat? memory_format=None) -> Tensor(a)",
  "aten::to.other(Tensor(a) self, Tensor other, bool non_blocking=False, bool copy=False, " ++
    "MemoryFormat? memory_format=None) -> Tensor(a)",
  "aten::_to_copy(Tensor self, *, ScalarType? dtype=None, Layout? layout=None, Device? " ++
    "device=None, bool? pin_memory=None, bool non_blocking=False, MemoryFormat? " ++
    "memory_format=None) -> Tensor",
  "aten::type_as(Tensor self, Tensor other) -> Tensor",
  "aten::contiguous(Tensor(a) self, *, MemoryFormat memory_format=contiguous_format) -> " ++
    "Tensor(a)",
  "aten::clone(Tensor self, *, MemoryFormat? memory_format=None) -> Tensor",
  "aten::zero.functional(Tensor self) -> Tensor"]

/-- Elementwise operators of a tensor and a scalar. -/
def scalarSchemas : List String := [
  "aten::eq.Scalar(Tensor self, Scalar other) -> Tensor",
  "aten::ne.Scalar(Tensor self, Scalar other) -> Tensor",
  "aten::gt.Scalar(Tensor self, Scalar other) -> Tensor",
  "aten::ge.Scalar(Tensor self, Scalar other) -> Tensor",
  "aten::le.Scalar(Tensor self, Scalar other) -> Tensor",
  "aten::lt.Scalar(Tensor self, Scalar other) -> Tensor",
  "aten::add.Scalar(Tensor self, Scalar other, Scalar alpha=1) -> Tensor",
  "aten::sub.Scalar(Tensor self, Scalar other, Scalar alpha=1) -> Tensor",
  "aten::mul.Scalar(Tensor self, Scalar other) -> Tensor",
  "aten::div.Scalar(Tensor self, Scalar other) -> Tensor",
  "aten::floor_divide.Scalar(Tensor self, Scalar other) -> Tensor",
  "aten::rsub.Scalar(Tensor self, Scalar other, Scalar alpha=1) -> Tensor",
  "aten::pow.Tensor_Scalar(Tensor self, Scalar exponent) -> Tensor",
  "aten::masked_fill.Scalar(Tensor self, Tensor mask, Scalar value) -> Tensor"]

/-- Elementwise operators whose operands stretch over each other. -/
def broadcastSchemas : List String := [
  "aten::add.Tensor(Tensor self, Tensor other, *, Scalar alpha=1) -> Tensor",
  "aten::sub.Tensor(Tensor self, Tensor other, *, Scalar alpha=1) -> Tensor",
  "aten::mul.Tensor(Tensor self, Tensor other) -> Tensor",
  "aten::div.Tensor(Tensor self, Tensor other) -> Tensor",
  "aten::__and__.Tensor(Tensor self, Tensor other) -> Tensor",
  "aten::minimum(Tensor self, Tensor other) -> Tensor",
  "aten::maximum(Tensor self, Tensor other) -> Tensor",
  "aten::bitwise_and.Tensor(Tensor self, Tensor other) -> Tensor",
  "aten::logical_or(Tensor self, Tensor other) -> Tensor",
  "aten::eq.Tensor(Tensor self, Tensor other) -> Tensor",
  "aten::gt.Tensor(Tensor self, Tensor other) -> Tensor",
  "aten::lt.Tensor(Tensor self, Tensor other) -> Tensor",
  "aten::where.self(Tensor condition, Tensor self, Tensor other) -> Tensor",
  "aten::where.Scalar(Tensor condition, Scalar self, Scalar other) -> Tensor",
  "aten::where.ScalarOther(Tensor condition, Tensor self, Scalar other) -> Tensor",
  "aten::where.ScalarSelf(Tensor condition, Scalar self, Tensor other) -> Tensor",
  "aten::lerp.Tensor(Tensor self, Tensor end, Tensor weight) -> Tensor",
  "aten::addcmul(Tensor self, Tensor tensor1, Tensor tensor2, *, Scalar value=1) -> Tensor",
  "aten::addcdiv(Tensor self, Tensor tensor1, Tensor tensor2, *, Scalar value=1) -> Tensor"]

/-- Reductions. -/
def reductionSchemas : List String := [
  "aten::any(Tensor self) -> Tensor",
  "aten::all(Tensor self) -> Tensor",
  "aten::max(Tensor self) -> Tensor",
  "aten::sum(Tensor self, *, ScalarType? dtype=None) -> Tensor",
  "aten::mean(Tensor self, *, ScalarType? dtype=None) -> Tensor",
  "aten::var(Tensor self, bool unbiased=True) -> Tensor",
  "aten::std(Tensor self, bool unbiased=True) -> Tensor",
  "aten::argmax(Tensor self, int? dim=None, bool keepdim=False) -> Tensor",
  "aten::any.dim(Tensor self, int dim, bool keepdim=False) -> Tensor",
  "aten::max.dim(Tensor self, int dim, bool keepdim=False) -> (Tensor values, Tensor indices)",
  "aten::mean.dim(Tensor self, int[1] dim, bool keepdim=False, *, ScalarType? dtype=None) -> " ++
    "Tensor",
  "aten::sum.dim_IntList(Tensor self, int[1] dim, bool keepdim=False, *, ScalarType? " ++
    "dtype=None) -> Tensor",
  "aten::linalg_vector_norm(Tensor self, Scalar ord=2, int[1]? dim=None, bool keepdim=False, " ++
    "*, ScalarType? dtype=None) -> Tensor",
  "aten::bincount(Tensor self, Tensor? weights=None, int minlength=0) -> Tensor"]

/-- Matrix products. -/
def matmulSchemas : List String := [
  "aten::matmul(Tensor self, Tensor other) -> Tensor",
  "aten::mm(Tensor self, Tensor mat2) -> Tensor",
  "aten::bmm(Tensor self, Tensor mat2) -> Tensor",
  "aten::addmm(Tensor self, Tensor mat1, Tensor mat2, *, Scalar beta=1, Scalar alpha=1) -> " ++
    "Tensor",
  "aten::linear(Tensor input, Tensor weight, Tensor? bias=None) -> Tensor"]

/-- Operators on the layout of a tensor. -/
def layoutSchemas : List String := [
  "aten::permute(Tensor(a) self, int[] dims) -> Tensor(a)",
  "aten::transpose.int(Tensor(a) self, int dim0, int dim1) -> Tensor(a)",
  "aten::t(Tensor(a) self) -> Tensor(a)",
  "aten::expand(Tensor(a) self, int[] size, *, bool implicit=False) -> Tensor(a)",
  "aten::expand_as(Tensor(a) self, Tensor other) -> Tensor(a)",
  "aten::broadcast_to(Tensor(a) self, int[] size) -> Tensor(a)",
  "aten::view(Tensor(a) self, int[] size) -> Tensor(a)",
  "aten::reshape(Tensor(a) self, int[] shape) -> Tensor(a)",
  "aten::_reshape_alias(Tensor(a) self, int[] size, int[] stride) -> Tensor(a)",
  "aten::_unsafe_view(Tensor self, int[] size) -> Tensor",
  "aten::resize_(Tensor(a!) self, int[] size, *, MemoryFormat? memory_format=None) -> " ++
    "Tensor(a!)",
  "aten::flatten.using_ints(Tensor(a) self, int start_dim=0, int end_dim=-1) -> Tensor(a)",
  "aten::unsqueeze(Tensor(a) self, int dim) -> Tensor(a)",
  "aten::squeeze(Tensor(a) self) -> Tensor(a)",
  "aten::squeeze.dim(Tensor(a) self, int dim) -> Tensor(a)",
  "aten::flip(Tensor self, int[] dims) -> Tensor",
  "aten::cat(Tensor[] tensors, int dim=0) -> Tensor"]

/-- Operators that create tensors. -/
def creationSchemas : List String := [
  "aten::zeros(int[] size, *, ScalarType? dtype=None, Layout? layout=None, Device? " ++
    "device=None, bool? pin_memory=None) -> Tensor",
  "aten::ones(int[] size, *, ScalarType? dtype=None, Layout? layout=None, Device? device=None, " ++
    "bool? pin_memory=None) -> Tensor",
  "aten::empty.memory_format(int[] size, *, ScalarType? dtype=None, Layout? layout=None, " ++
    "Device? device=None, bool? pin_memory=None, MemoryFormat? memory_format=None) -> Tensor",
  "aten::full(int[] size, Scalar fill_value, *, ScalarType? dtype=None, Layout? layout=None, " ++
    "Device? device=None, bool? pin_memory=None) -> Tensor",
  "aten::full_like(Tensor self, Scalar fill_value, *, ScalarType? dtype=None, Layout? " ++
    "layout=None, Device? device=None, bool? pin_memory=None, MemoryFormat? " ++
    "memory_format=None) -> Tensor",
  "aten::zeros_like(Tensor self, *, ScalarType? dtype=None, Layout? layout=None, Device? " ++
    "device=None, bool? pin_memory=None, MemoryFormat? memory_format=None) -> Tensor",
  "aten::ones_like(Tensor self, *, ScalarType? dtype=None, Layout? layout=None, Device? " ++
    "device=None, bool? pin_memory=None, MemoryFormat? memory_format=None) -> Tensor",
  "aten::empty_like(Tensor self, *, ScalarType? dtype=None, Layout? layout=None, Device? " ++
    "device=None, bool? pin_memory=None, MemoryFormat? memory_format=None) -> Tensor",
  "aten::rand_like(Tensor self, *, ScalarType? dtype=None, Layout? layout=None, Device? " ++
    "device=None, bool? pin_memory=None, MemoryFormat? memory_format=None) -> Tensor",
  "aten::new_zeros(Tensor self, int[] size, *, ScalarType? dtype=None, Layout? layout=None, " ++
    "Device? device=None, bool? pin_memory=None) -> Tensor",
  "aten::new_ones(Tensor self, int[] size, *, ScalarType? dtype=None, Layout? layout=None, " ++
    "Device? device=None, bool? pin_memory=None) -> Tensor",
  "aten::new_empty(Tensor self, int[] size, *, ScalarType? dtype=None, Layout? layout=None, " ++
    "Device? device=None, bool? pin_memory=None) -> Tensor",
  "aten::arange.start_step(Scalar start, Scalar end, Scalar step, *, ScalarType? dtype=None, " ++
    "Layout? layout=None, Device? device=None, bool? pin_memory=None) -> Tensor",
  "aten::arange.start(Scalar start, Scalar end, *, ScalarType? dtype=None, Layout? " ++
    "layout=None, Device? device=None, bool? pin_memory=None) -> Tensor",
  "aten::arange(Scalar end, *, ScalarType? dtype=None, Layout? layout=None, Device? " ++
    "device=None, bool? pin_memory=None) -> Tensor",
  "aten::tensor.float(float t, *, ScalarType? dtype=None, Device? device=None, bool " ++
    "requires_grad=False) -> Tensor",
  "aten::tensor.int(int t, *, ScalarType? dtype=None, Device? device=None, bool " ++
    "requires_grad=False) -> Tensor",
  "aten::tensor.bool(bool t, *, ScalarType? dtype=None, Device? device=None, bool " ++
    "requires_grad=False) -> Tensor",
  "aten::_shape_as_tensor(Tensor self) -> Tensor",
  "prim::NumToTensor.Scalar(Scalar a) -> Tensor"]

/-- Operators that select elements. -/
def indexSchemas : List String := [
  "aten::select.int(Tensor(a) self, int dim, int index) -> Tensor(a)",
  "aten::slice.Tensor(Tensor(a) self, int dim=0, int? start=None, int? end=None, int step=1) " ++
    "-> Tensor(a)",
  "aten::gather(Tensor self, int dim, Tensor index, *, bool sparse_grad=False) -> Tensor",
  "aten::index_select(Tensor self, int dim, Tensor index) -> Tensor",
  "aten::index.Tensor(Tensor self, Tensor?[] indices) -> Tensor",
  "aten::index_put(Tensor self, Tensor?[] indices, Tensor values, bool accumulate=False) -> " ++
    "Tensor",
  "aten::index_put.hacked_twin(Tensor self, Tensor[] indices, Tensor values, bool " ++
    "accumulate=False) -> Tensor",
  "aten::embedding(Tensor weight, Tensor indices, int padding_idx=-1, bool " ++
    "scale_grad_by_freq=False, bool sparse=False) -> Tensor",
  "aten::topk(Tensor self, int k, int dim=-1, bool largest=True, bool sorted=True) -> (Tensor " ++
    "values, Tensor indices)",
  "aten::constant_pad_nd(Tensor self, int[] pad, Scalar value=0) -> Tensor",
  "aten::pad(Tensor self, int[] pad, str mode=\"constant\", float? value=None) -> Tensor"]

/-- Layers of neural networks. -/
def networkSchemas : List String := [
  "aten::conv2d(Tensor input, Tensor weight, Tensor? bias=None, int[2] stride=1, int[2] " ++
    "padding=0, int[2] dilation=1, int groups=1) -> Tensor",
  "aten::convolution(Tensor input, Tensor weight, Tensor? bias, int[] stride, int[] padding, " ++
    "int[] dilation, bool transposed, int[] output_padding, int groups) -> Tensor",
  "aten::max_pool2d(Tensor self, int[2] kernel_size, int[2] stride=[], int[2] padding=0, " ++
    "int[2] dilation=1, bool ceil_mode=False) -> Tensor",
  "aten::max_pool2d_with_indices(Tensor self, int[2] kernel_size, int[2] stride=[], int[2] " ++
    "padding=0, int[2] dilation=1, bool ceil_mode=False) -> (Tensor, Tensor)",
  "aten::max_pool2d_with_indices_backward(Tensor grad_output, Tensor self, int[2] kernel_size, " ++
    "int[2] stride, int[2] padding, int[2] dilation, bool ceil_mode, Tensor indices) -> Tensor",
  "aten::avg_pool2d(Tensor self, int[2] kernel_size, int[2] stride=[], int[2] padding=0, bool " ++
    "ceil_mode=False, bool count_include_pad=True, int? divisor_override=None) -> Tensor",
  "aten::adaptive_avg_pool2d(Tensor self, int[2] output_size) -> Tensor",
  "aten::_softmax(Tensor self, int dim, bool half_to_float) -> Tensor",
  "aten::softmax.int(Tensor self, int dim, ScalarType? dtype=None) -> Tensor",
  "aten::_log_softmax(Tensor self, int dim, bool half_to_float) -> Tensor",
  "aten::log_softmax.int(Tensor self, int dim, ScalarType? dtype=None) -> Tensor",
  "aten::_softmax_backward_data(Tensor grad_output, Tensor output, int dim, ScalarType " ++
    "input_dtype) -> Tensor",
  "aten::_log_softmax_backward_data(Tensor grad_output, Tensor output, int dim, ScalarType " ++
    "input_dtype) -> Tensor",
  "aten::layer_norm(Tensor input, int[] normalized_shape, Tensor? weight=None, Tensor? " ++
    "bias=None, float eps=1e-05, bool cudnn_enable=True) -> Tensor",
  "aten::native_layer_norm(Tensor input, int[] normalized_shape, Tensor? weight, Tensor? bias, " ++
    "float eps) -> (Tensor, Tensor, Tensor)",
  "aten::batch_norm(Tensor input, Tensor? weight, Tensor? bias, Tensor? running_mean, Tensor? " ++
    "running_var, bool training, float momentum, float eps, bool cudnn_enabled) -> Tensor",
  "aten::native_batch_norm(Tensor input, Tensor? weight, Tensor? bias, Tensor? running_mean, " ++
    "Tensor? running_var, bool training, float momentum, float eps) -> (Tensor, Tensor, Tensor)",
  "aten::nll_loss_forward(Tensor self, Tensor target, Tensor? weight, int reduction, int " ++
    "ignore_index) -> (Tensor output, Tensor total_weight)",
  "aten::nll_loss_backward(Tensor grad_output, Tensor self, Tensor target, Tensor? weight, int " ++
    "reduction, int ignore_index, Tensor total_weight) -> Tensor"]

/-- The lines of the table. -/
def builtinLines : List String :=
  unarySchemas ++ scalarSchemas ++ broadcastSchemas ++ reductionSchemas ++
    matmulSchemas ++ layoutSchemas ++ creationSchemas ++
    indexSchemas ++ networkSchemas

/-- The table of all built-in operators. -/
def builtin : Except RegistryError Registry :=
  parse (Text.joined "\n" builtinLines)

end OpShape.Registry
