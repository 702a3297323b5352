import Wakeful.SharedLibrary.Names

/-! The names that the library for numbers offers, most of them for every precision. -/

namespace Wakeful.SharedLibrary

/-- Names for numbers in double precision that exist for every other precision too. -/
def forms : List String :=
  -- A mark for the precision is added to them.
  names "acos acosh asin asinh atan atan2 atanh cabs cacos cacosh canonicalize carg casin casinh"
  ++ names "catan catanh cbrt ccos ccosh ceil cexp cimag clog clog10 conj copysign cos cosh cpow"
  ++ names "cproj creal csin csinh csqrt ctan ctanh erf erfc exp exp10 exp2 expm1 fabs fdim floor"
  ++ names "fma fmax fmaximum fmaximum_mag fmaximum_mag_num fmaximum_num fmaxmag fmin fminimum"
  ++ names "fminimum_mag fminimum_mag_num fminimum_num fminmag fmod frexp fromfp fromfpx getpayload"
  ++ names "hypot ilogb j0 j1 jn ldexp lgamma llogb llrint llround log log10 log1p log2 logb lrint"
  ++ names "lround modf nan nearbyint nextafter nextdown nextup pow remainder remquo rint round"
  ++ names "roundeven scalbln scalbn setpayload setpayloadsig sin sincos sinh sqrt tan tanh tgamma"
  ++ names "totalorder totalordermag trunc ufromfp ufromfpx y0 y1 yn"

/-- The marks for the precisions. -/
def precisions : List String :=
  -- Double precision has none.
  ["", "f", "l", "f32", "f32x", "f64", "f64x", "f128"]

/-- Names for numbers that do not exist for every precision. -/
def special : List String :=
  -- Among them are those for the state of the unit that calculates.
  names "__clog10 __clog10f __clog10l __finite __finitef __finitef128 __finitel __fpclassify"
  ++ names "__fpclassifyf __fpclassifyf128 __fpclassifyl __iscanonicall __iseqsig __iseqsigf"
  ++ names "__iseqsigf128 __iseqsigl __isinff128 __issignaling __issignalingf __issignalingf128"
  ++ names "__issignalingl __signbit __signbitf __signbitf128 __signbitl __signgam daddl ddivl"
  ++ names "dfmal dmull drem dremf dreml dsqrtl dsubl f32addf128 f32addf32x f32addf64 f32addf64x"
  ++ names "f32divf128 f32divf32x f32divf64 f32divf64x f32fmaf128 f32fmaf32x f32fmaf64 f32fmaf64x"
  ++ names "f32mulf128 f32mulf32x f32mulf64 f32mulf64x f32sqrtf128 f32sqrtf32x f32sqrtf64"
  ++ names "f32sqrtf64x f32subf128 f32subf32x f32subf64 f32subf64x f32xaddf128 f32xaddf64"
  ++ names "f32xaddf64x f32xdivf128 f32xdivf64 f32xdivf64x f32xfmaf128 f32xfmaf64 f32xfmaf64x"
  ++ names "f32xmulf128 f32xmulf64 f32xmulf64x f32xsqrtf128 f32xsqrtf64 f32xsqrtf64x f32xsubf128"
  ++ names "f32xsubf64 f32xsubf64x f64addf128 f64addf64x f64divf128 f64divf64x f64fmaf128"
  ++ names "f64fmaf64x f64mulf128 f64mulf64x f64sqrtf128 f64sqrtf64x f64subf128 f64subf64x"
  ++ names "f64xaddf128 f64xdivf128 f64xfmaf128 f64xmulf128 f64xsqrtf128 f64xsubf128 fadd faddl"
  ++ names "fdiv fdivl feclearexcept fedisableexcept feenableexcept fegetenv fegetexcept"
  ++ names "fegetexceptflag fegetmode fegetround feholdexcept feraiseexcept fesetenv fesetexcept"
  ++ names "fesetexceptflag fesetmode fesetround fetestexcept fetestexceptflag feupdateenv ffma"
  ++ names "ffmal finite finitef finitel fmul fmull fsqrt fsqrtl fsub fsubl gamma gammaf gammal"
  ++ names "lgamma_r lgammaf128_r lgammaf32_r lgammaf32x_r lgammaf64_r lgammaf64x_r lgammaf_r"
  ++ names "lgammal_r nexttoward nexttowardf nexttowardl scalb scalbf scalbl signgam significand"
  ++ names "significandf significandl"

/-- All names of the library for numbers. -/
def mathematical : List String :=
  -- Every form exists in every precision.
  forms.flatMap (fun form => precisions.map (form ++ ·)) ++ special

end Wakeful.SharedLibrary
