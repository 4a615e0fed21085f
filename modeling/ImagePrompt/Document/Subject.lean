import ImagePrompt.Document.ImageRef
/-!
# Subjects

Who or what a picture shows: traits, hair, clothes and accessories.
-/

namespace ImagePrompt

structure Hair where
  color : Option String := none
  style : Option String := none
  extra : Members := []

namespace Hair

def keys : List String := ["color", "style"]

def read (ms : Members) : Except DecodeError Hair := do
  let color ← ms.optional "color" .text
  let style ← ms.optional "style" .text
  return { color, style, extra := ms.without keys }

def members (h : Hair) : Members :=
  .ofOption "color" .text h.color ++
  .ofOption "style" .text h.style ++
  h.extra

def codec : Codec Hair := .record "Hair" read members

end Hair

structure Garment where
  item : Option String := none
  color : Option String := none
  fabric : Option String := none
  extra : Members := []

namespace Garment

def keys : List String := ["item", "color", "fabric"]

def read (ms : Members) : Except DecodeError Garment := do
  let color ← ms.optional "color" .text
  let fabric ← ms.optional "fabric" .text
  let item ← ms.optional "item" .text
  return { item, color, fabric, extra := ms.without keys }

def members (g : Garment) : Members :=
  .ofOption "item" .text g.item ++
  .ofOption "color" .text g.color ++
  .ofOption "fabric" .text g.fabric ++
  g.extra

def codec : Codec Garment := .record "Garment" read members

end Garment

structure Accessory where
  item : Option String := none
  color : Option String := none
  material : Option String := none
  extra : Members := []

namespace Accessory

def keys : List String := ["item", "color", "material"]

def read (ms : Members) : Except DecodeError Accessory := do
  let color ← ms.optional "color" .text
  let item ← ms.optional "item" .text
  let material ← ms.optional "material" .text
  return { item, color, material, extra := ms.without keys }

def members (a : Accessory) : Members :=
  .ofOption "item" .text a.item ++
  .ofOption "color" .text a.color ++
  .ofOption "material" .text a.material ++
  a.extra

def codec : Codec Accessory := .record "Accessory" read members

end Accessory

structure Subject where
  name : Option String := none
  kind : Option String := none
  description : Option String := none
  age : Option Json := none
  gender : Option String := none
  hair : Option Hair := none
  pose : Option String := none
  expression : Option String := none
  position : Option String := none
  clothing : List Garment := []
  accessories : List Accessory := []
  inputImage : Option ImageRef := none
  extra : Members := []

namespace Subject

def keys : List String :=
  ["name", "type", "description", "age", "gender", "hair", "pose", "expression", "position",
    "clothing", "accessories", "input_image"]

def read (ms : Members) : Except DecodeError Subject := do
  let accessories ← ms.list "accessories" Accessory.codec
  let age ← ms.optional "age" .value
  let clothing ← ms.list "clothing" Garment.codec
  let description ← ms.optional "description" .text
  let expression ← ms.optional "expression" .text
  let gender ← ms.optional "gender" .text
  let hair ← ms.optional "hair" Hair.codec
  let inputImage ← ms.optional "input_image" ImageRef.codec
  let name ← ms.optional "name" .text
  let pose ← ms.optional "pose" .text
  let position ← ms.optional "position" .text
  let kind ← ms.optional "type" .text
  return { name, kind, description, age, gender, hair, pose, expression, position, clothing,
           accessories, inputImage, extra := ms.without keys }

def members (s : Subject) : Members :=
  .ofOption "name" .text s.name ++
  .ofOption "type" .text s.kind ++
  .ofOption "description" .text s.description ++
  .ofOption "age" .value s.age ++
  .ofOption "gender" .text s.gender ++
  .ofOption "hair" Hair.codec s.hair ++
  .ofOption "pose" .text s.pose ++
  .ofOption "expression" .text s.expression ++
  .ofOption "position" .text s.position ++
  .ofList "clothing" Garment.codec s.clothing ++
  .ofList "accessories" Accessory.codec s.accessories ++
  .ofOption "input_image" ImageRef.codec s.inputImage ++
  s.extra

def codec : Codec Subject := .record "Subject" read members

end Subject

end ImagePrompt
