import ShaderVariants.Path

/-!
How variants are produced and where they go.
-/
namespace ShaderVariants

inductive Platform where
  | gles3x
  | gles20
  | vulkan
  | metal
deriving DecidableEq, Repr

namespace Platform

def all : List Platform := [.gles3x, .gles20, .vulkan, .metal]

def name : Platform → String
  | .gles3x => "gles3x"
  | .gles20 => "gles20"
  | .vulkan => "vulkan"
  | .metal => "metal"

def ofName? (name : String) : Option Platform :=
  all.find? (·.name = name)

def isGlsl : Platform → Bool
  | .gles3x | .gles20 => true
  | .vulkan | .metal => false

end Platform

inductive BuildTarget where
  | android
  | ios
  | standalone
deriving DecidableEq, Repr

namespace BuildTarget

def all : List BuildTarget := [.android, .ios, .standalone]

def name : BuildTarget → String
  | .android => "android"
  | .ios => "ios"
  | .standalone => "standalone"

def ofName? (name : String) : Option BuildTarget :=
  all.find? (·.name = name)

end BuildTarget

/-- How variants are made and written: the line put on top of each, the extension of their files,
and the directory for them, unless it is the system's own. -/
structure VariantSettings where
  platform : Platform := .gles3x
  buildTarget : BuildTarget := .android
  versionLine : String := "#version 310 es"
  extension : String := "shader"
  directory? : Option Path := none
deriving DecidableEq, Repr

end ShaderVariants
