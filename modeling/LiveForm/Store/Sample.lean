import LiveForm.Store.Basic

/-!
# The form that a store starts with

A form to write a message with, in two parts: a header, and a body with a row of two fields and
four fields below each other. `SampleForm.text` is the text that it is kept as, and `sampleForm` the
definition that is read from it.
-/

namespace LiveForm

namespace SampleForm

/-- A field with a placeholder and constraints. -/
def field (id : String) (kind : FieldKind) (label hint : String) (c : Constraints) :
    FieldDefinition where
  id := id
  name := id
  kind := kind
  label := label
  placeholder := some hint
  constraints := some c

def fields : List FieldDefinition :=
  [field "first_name" .text "First Name" "Enter your first name"
     { required := some true, minLength := some 2 },
   field "last_name" .text "Last Name" "Enter your last name"
     { required := some true, minLength := some 2 },
   field "email" .email "Email Address" "Enter your email"
     { required := some true, pattern := some "^[^@]+@[^@]+\\.[^@]+$" },
   field "phone" .tel "Phone Number" "Enter your phone number" { required := some false },
   field "message" .textarea "Message" "Enter your message"
     { required := some true, minLength := some 10 },
   { id := "contact_method"
     name := "contact_method"
     kind := .select
     label := "Preferred Contact Method"
     choices := some
       [⟨.str "email", "Email"⟩, ⟨.str "phone", "Phone"⟩, ⟨.str "either", "Either"⟩]
     constraints := some { required := some true } }]

/-- A container of an element and a class. -/
def part (id element className : String) (children : List LayoutNode) : LayoutNode :=
  .container id (some element) [("className", .str className)] children

def layout : LayoutNode :=
  part "root" "div" "max-w-2xl mx-auto p-6 bg-white rounded-lg shadow-lg"
    [part "header" "div" "mb-6"
       [part "title" "h1" "text-3xl font-bold text-gray-900 mb-2" [],
        part "subtitle" "p" "text-gray-600" []],
     part "form_body" "div" "space-y-4"
       [part "name_row" "div" "grid grid-cols-1 md:grid-cols-2 gap-4"
          [.field "first_name_field" "first_name", .field "last_name_field" "last_name"],
        .field "email_field" "email",
        .field "phone_field" "phone",
        .field "contact_method_field" "contact_method",
        .field "message_field" "message"]]

/-- The text of the form, cut before each field and each part of the layout. -/
def parts : List String :=
  ["\x7b
  \"formId\": \"contact-us-v1\",
  \"name\": \"Contact Us Form\",
  \"description\": \"Get in touch with us. We'd love to hear from you!\",
  \"config\": \x7b
    \"mode\": \"input\"
  \x7d,
  \"fields\": [
",
   "    \x7b
      \"id\": \"first_name\",
      \"name\": \"first_name\",
      \"type\": \"text\",
      \"label\": \"First Name\",
      \"placeholder\": \"Enter your first name\",
      \"validation\": \x7b
        \"required\": true,
        \"minLength\": 2
      \x7d
    \x7d,
",
   "    \x7b
      \"id\": \"last_name\",
      \"name\": \"last_name\",
      \"type\": \"text\",
      \"label\": \"Last Name\",
      \"placeholder\": \"Enter your last name\",
      \"validation\": \x7b
        \"required\": true,
        \"minLength\": 2
      \x7d
    \x7d,
",
   "    \x7b
      \"id\": \"email\",
      \"name\": \"email\",
      \"type\": \"email\",
      \"label\": \"Email Address\",
      \"placeholder\": \"Enter your email\",
      \"validation\": \x7b
        \"required\": true,
        \"pattern\": \"^[^@]+@[^@]+\\\\.[^@]+$\"
      \x7d
    \x7d,
",
   "    \x7b
      \"id\": \"phone\",
      \"name\": \"phone\",
      \"type\": \"tel\",
      \"label\": \"Phone Number\",
      \"placeholder\": \"Enter your phone number\",
      \"validation\": \x7b
        \"required\": false
      \x7d
    \x7d,
",
   "    \x7b
      \"id\": \"message\",
      \"name\": \"message\",
      \"type\": \"textarea\",
      \"label\": \"Message\",
      \"placeholder\": \"Enter your message\",
      \"validation\": \x7b
        \"required\": true,
        \"minLength\": 10
      \x7d
    \x7d,
",
   "    \x7b
      \"id\": \"contact_method\",
      \"name\": \"contact_method\",
      \"type\": \"select\",
      \"label\": \"Preferred Contact Method\",
      \"options\": [
        \x7b
          \"label\": \"Email\",
          \"value\": \"email\"
        \x7d,
        \x7b
          \"label\": \"Phone\",
          \"value\": \"phone\"
        \x7d,
        \x7b
          \"label\": \"Either\",
          \"value\": \"either\"
        \x7d
      ],
      \"validation\": \x7b
        \"required\": true
      \x7d
    \x7d
",
   "  ],
  \"layoutDefinition\": \x7b
    \"id\": \"root\",
    \"component\": \"container\",
    \"element\": \"div\",
    \"attributes\": \x7b
      \"className\": \"max-w-2xl mx-auto p-6 bg-white rounded-lg shadow-lg\"
    \x7d,
    \"children\": [
      \x7b
        \"id\": \"header\",
        \"component\": \"container\",
        \"element\": \"div\",
        \"attributes\": \x7b
          \"className\": \"mb-6\"
        \x7d,
        \"children\": [
",
   "          \x7b
            \"id\": \"title\",
            \"component\": \"container\",
            \"element\": \"h1\",
            \"attributes\": \x7b
              \"className\": \"text-3xl font-bold text-gray-900 mb-2\"
            \x7d,
            \"children\": []
          \x7d,
",
   "          \x7b
            \"id\": \"subtitle\",
            \"component\": \"container\",
            \"element\": \"p\",
            \"attributes\": \x7b
              \"className\": \"text-gray-600\"
            \x7d,
            \"children\": []
          \x7d
        ]
      \x7d,
",
   "      \x7b
        \"id\": \"form_body\",
        \"component\": \"container\",
        \"element\": \"div\",
        \"attributes\": \x7b
          \"className\": \"space-y-4\"
        \x7d,
        \"children\": [
",
   "          \x7b
            \"id\": \"name_row\",
            \"component\": \"container\",
            \"element\": \"div\",
            \"attributes\": \x7b
              \"className\": \"grid grid-cols-1 md:grid-cols-2 gap-4\"
            \x7d,
            \"children\": [
              \x7b
                \"id\": \"first_name_field\",
                \"component\": \"field\",
                \"fieldId\": \"first_name\"
              \x7d,
              \x7b
                \"id\": \"last_name_field\",
                \"component\": \"field\",
                \"fieldId\": \"last_name\"
              \x7d
            ]
          \x7d,
",
   "          \x7b
            \"id\": \"email_field\",
            \"component\": \"field\",
            \"fieldId\": \"email\"
          \x7d,
",
   "          \x7b
            \"id\": \"phone_field\",
            \"component\": \"field\",
            \"fieldId\": \"phone\"
          \x7d,
",
   "          \x7b
            \"id\": \"contact_method_field\",
            \"component\": \"field\",
            \"fieldId\": \"contact_method\"
          \x7d,
",
   "          \x7b
            \"id\": \"message_field\",
            \"component\": \"field\",
            \"fieldId\": \"message\"
          \x7d
        ]
      \x7d
    ]
  \x7d
\x7d
"]

/-- The text of the form. -/
def text : String := String.ofList (parts.flatMap String.toList)

end SampleForm

/-- The form that a store starts with. -/
def sampleForm : FormDefinition where
  formId := "contact-us-v1"
  name := "Contact Us Form"
  description := some "Get in touch with us. We'd love to hear from you!"
  fields := SampleForm.fields
  layout := SampleForm.layout

/-- A store with the sample form. -/
def Store.seeded : Store := (({} : Store).put sampleForm.formId sampleForm).2

end LiveForm
