/-!
# Templates for Go

The templates that generate a Go library: an introduction, a module file, the types of the API, and
a client for each service.  They are data, line by line, with guillemets in place of braces; the
generator reads them from a directory like any other templates.

A file of types imports what the types need.  A client sends each request as JSON over HTTP.
-/

namespace ClientGen.GoTemplates

/-- The introduction to the library. -/
def readme : List String := [
  "# «% if title %»«« title »»«% else %»«« name »»«% endif %»",
  "",
  "«% if description %»«« description »»«% else %»Client library for the «« name »» API.«% endif %»",
  "",
  "This package is generated by sidekick. Do not edit it by hand; change the",
  "specification or the templates and run \x60sidekick refresh\x60 instead.",
  "«%- if services %»",
  "",
  "## Services",
  "«% for service in services %»",
  "- \x60«« service.name_to_pascal »»Client\x60 for \x60«« service.default_host »»\x60",
  "«%- endfor %»",
  "«%- endif %»",
  ""]

/-- The clients, one for each service. -/
def client : List String := [
  "«%- import \"macros.go.partial.jinja2\" as go -%»",
  "«« go::header(year=copyright_year) »»",
  "",
  "package «% if go_package %»«« go_package »»«% else %»«« package_name »»«% endif %»",
  "«%- if has_services %»",
  "",
  "import (",
  "\t\"bytes\"",
  "\t\"context\"",
  "\t\"encoding/json\"",
  "\t\"fmt\"",
  "\t\"io\"",
  "\t\"net/http\"",
  "\t\"net/url\"",
  ")",
  "«%- for service in services %»",
  "«% for line in service.doc_lines %»",
  "«« line »»",
  "«%- endfor %»",
  "type «« service.name_to_pascal »»Client struct «",
  "\tendpoint string",
  "\thttp     *http.Client",
  "»",
  "",
  "// New«« service.name_to_pascal »»Client returns a client for https://«« service.default_host »».",
  "func New«« service.name_to_pascal »»Client(httpClient *http.Client) *«« service.name_to_pascal »»Client «",
  "\treturn &«« service.name_to_pascal »»Client«endpoint: \"https://«« service.default_host »»\", http: httpClient»",
  "»",
  "«%- for method in service.methods %»",
  "«% for line in method.doc_lines %»",
  "«« line »»",
  "«%- endfor %»",
  "func (c *«« service.name_to_pascal »»Client) «« method.name_to_pascal »»(ctx context.Context, req *«« method.input_type_name »») (*«« method.output_type_name »», error) «",
  "\tpath := fmt.Sprintf(\"«« method.path_fmt »»\"«% for arg in method.path_args %»«« arg »»«% endfor %»)",
  "\tquery := url.Values«»",
  "«%- for field in method.query_params %»",
  "\tquery.Add(\"«« field.json_name »»\", «« field.as_query_parameter »»)",
  "«%- endfor %»",
  "«%- if method.has_body %»",
  "\tbody, err := json.Marshal(req«« method.body_accessor »»)",
  "\tif err != nil «",
  "\t\treturn nil, err",
  "\t»",
  "«%- else %»",
  "\tvar body []byte",
  "«%- endif %»",
  "\tresp := &«« method.output_type_name »»«»",
  "\tif err := c.do(ctx, \"«« method.http_method »»\", path, query, body, resp); err != nil «",
  "\t\treturn nil, err",
  "\t»",
  "\treturn resp, nil",
  "»",
  "«%- endfor %»",
  "",
  "func (c *«« service.name_to_pascal »»Client) do(ctx context.Context, method, path string, query url.Values, body []byte, out any) error «",
  "\ttarget := c.endpoint + path",
  "\tif len(query) > 0 «",
  "\t\ttarget += \"?\" + query.Encode()",
  "\t»",
  "\trequest, err := http.NewRequestWithContext(ctx, method, target, bytes.NewReader(body))",
  "\tif err != nil «",
  "\t\treturn err",
  "\t»",
  "\trequest.Header.Set(\"Content-Type\", \"application/json\")",
  "\tresponse, err := c.http.Do(request)",
  "\tif err != nil «",
  "\t\treturn err",
  "\t»",
  "\tdefer response.Body.Close()",
  "\tpayload, err := io.ReadAll(response.Body)",
  "\tif err != nil «",
  "\t\treturn err",
  "\t»",
  "\tif response.StatusCode >= 300 «",
  "\t\treturn fmt.Errorf(\"%s %s: %s: %s\", method, path, response.Status, payload)",
  "\t»",
  "\treturn json.Unmarshal(payload, out)",
  "»",
  "«%- endfor %»",
  "«%- endif %»",
  ""]

/-- The module file. -/
def manifest : List String := [
  "module «% if go_package %»«« go_package »»«% else %»«« package_name »»«% endif %»",
  "",
  "go 1.22",
  "«%- if required_packages %»",
  "",
  "require (",
  "«%- for requirement in required_packages %»",
  "\t«« requirement »»",
  "«%- endfor %»",
  ")",
  "«%- endif %»",
  ""]

/-- Macros for the header of a file, an enum and a message with all that is in it. -/
def macros : List String := [
  "«% macro header(year) -%»",
  "// Copyright «« year »» Google LLC",
  "//",
  "// Licensed under the Apache License, Version 2.0 (the \"License\");",
  "// you may not use this file except in compliance with the License.",
  "// You may obtain a copy of the License at",
  "//",
  "//     https://www.apache.org/licenses/LICENSE-2.0",
  "//",
  "// Unless required by applicable law or agreed to in writing, software",
  "// distributed under the License is distributed on an \"AS IS\" BASIS,",
  "// WITHOUT WARRANTIES OR CONDITIONS OF ANY KIND, either express or implied.",
  "// See the License for the specific language governing permissions and",
  "// limitations under the License.",
  "",
  "// Code generated by sidekick. DO NOT EDIT.",
  "«%- endmacro header %»",
  "",
  "«% macro enumeration(e) -%»",
  "«%- for line in e.doc_lines %»",
  "«« line »»",
  "«%- endfor %»",
  "type «« e.name »» int32",
  "",
  "const (",
  "«%- for v in e.values %»",
  "«%- for line in v.doc_lines %»",
  "\t«« line »»",
  "«%- endfor %»",
  "\t«« v.name »» «« e.name »» = «« v.number »»",
  "«%- endfor %»",
  ")",
  "«%- endmacro enumeration %»",
  "",
  "«% macro message(m) -%»",
  "«%- for line in m.doc_lines %»",
  "«« line »»",
  "«%- endfor %»",
  "«%- for o in m.one_ofs %»",
  "//",
  "// At most one of «% for f in o.fields %»«« f.name_to_pascal »»«% if not loop.last %», «% endif %»«% endfor %» is set.",
  "«%- endfor %»",
  "type «« m.name »» struct «",
  "«%- for f in m.fields %»",
  "«%- for line in f.doc_lines %»",
  "\t«« line »»",
  "«%- endfor %»",
  "«%- for attribute in f.attributes %»",
  "\t«« attribute »»",
  "«%- endfor %»",
  "\t«« f.name_to_pascal »» «« f.field_type »» \x60json:\"«« f.json_name »»,omitempty\"\x60",
  "«%- endfor %»",
  "»",
  "«%- for child in m.messages %»",
  "",
  "«« self::message(m=child) »»",
  "«%- endfor %»",
  "«%- for e in m.enums %»",
  "",
  "«« self::enumeration(e=e) »»",
  "«%- endfor %»",
  "«%- endmacro message %»",
  ""]

/-- The types of the messages and enums. -/
def model : List String := [
  "«%- import \"macros.go.partial.jinja2\" as go -%»",
  "«« go::header(year=copyright_year) »»",
  "",
  "package «% if go_package %»«« go_package »»«% else %»«« package_name »»«% endif %»",
  "«%- if imports %»",
  "",
  "import (",
  "«%- for path in imports %»",
  "\t«« path »»",
  "«%- endfor %»",
  ")",
  "«%- endif %»",
  "«%- for m in messages %»",
  "",
  "«« go::message(m=m) »»",
  "«%- endfor %»",
  "«%- for e in enums %»",
  "",
  "«« go::enumeration(e=e) »»",
  "«%- endfor %»",
  ""]

/-- The character that stands in a template. -/
def braced (c : Char) : Char :=
  if c = '«' then '\x7b' else if c = '»' then '\x7d' else c

/-- The template of some lines. -/
def textOf (lines : List String) : String :=
  ("\n".intercalate lines).map braced

/-- The names and the texts of the files. -/
def files : List (String × String) := [
  ("README.md.jinja2", textOf readme),
  ("client.go.jinja2", textOf client),
  ("go.mod.jinja2", textOf manifest),
  ("macros.go.partial.jinja2", textOf macros),
  ("model.go.jinja2", textOf model)]

end ClientGen.GoTemplates
