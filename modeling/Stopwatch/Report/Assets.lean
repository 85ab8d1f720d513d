import Stopwatch.Markup.Piece

/-!
# The fixed parts of a report page

The style sheet, and the script that draws the charts and sorts the tables.
-/

namespace Stopwatch.Page

/-- Some lines, each with its line feed. -/
def joinLines (lines : List String) : String := String.join (lines.map (· ++ "\n"))

/-- The library that draws the charts. -/
def chartLibrary : String := "https://cdn.jsdelivr.net/npm/chart.js@4.4.0/dist/chart.umd.min.js"

/-- The style sheet. -/
def style : String :=
  joinLines [
    "*\x7bmargin:0;padding:0;box-sizing:border-box\x7d",
    "body\x7bfont-family:-apple-system,BlinkMacSystemFont,'Segoe UI',Roboto,Ubuntu,sans-serif;line-height:1.6;color:#333;background:#f5f5f5;padding:20px\x7d",
    ".container\x7bmax-width:1200px;margin:0 auto;background:#fff;padding:30px;border-radius:8px;box-shadow:0 2px 10px rgba(0,0,0,.1)\x7d",
    "h1\x7bcolor:#2c3e50;border-bottom:3px solid #3498db;padding-bottom:10px;margin-bottom:30px\x7d",
    "h2\x7bcolor:#34495e;margin:40px 0 20px;padding-bottom:10px;border-bottom:2px solid #ecf0f1\x7d",
    "h3\x7bcolor:#555;margin:30px 0 15px\x7d",
    ".summary\x7bbackground:#ecf0f1;padding:20px;border-radius:5px;margin-bottom:30px\x7d",
    ".summary-grid\x7bdisplay:grid;grid-template-columns:repeat(auto-fit,minmax(200px,1fr));gap:15px;margin-top:15px\x7d",
    ".summary-item\x7bbackground:#fff;padding:15px;border-radius:5px;border-left:4px solid #3498db\x7d",
    ".summary-item h4\x7bcolor:#7f8c8d;font-size:.9em;margin-bottom:5px\x7d",
    ".summary-item .value\x7bfont-size:1.5em;font-weight:bold;color:#2c3e50\x7d",
    "table\x7bwidth:100%;border-collapse:collapse;margin:20px 0;background:#fff\x7d",
    "th,td\x7bpadding:12px;text-align:left;border-bottom:1px solid #ddd\x7d",
    "th\x7bbackground:#34495e;color:#fff;font-weight:600;cursor:pointer;user-select:none\x7d",
    "th:hover\x7bbackground:#2c3e50\x7d",
    "tr:hover\x7bbackground:#f8f9fa\x7d",
    ".badge\x7bdisplay:inline-block;padding:4px 8px;border-radius:3px;font-size:.85em;font-weight:bold;color:#fff\x7d",
    ".badge-faster\x7bbackground:#27ae60\x7d",
    ".badge-similar\x7bbackground:#f39c12\x7d",
    ".badge-slower\x7bbackground:#e74c3c\x7d",
    ".error-row td\x7bcolor:#c0392b\x7d",
    ".chart-container\x7bmargin:30px 0;padding:20px;background:#fafafa;border-radius:5px\x7d",
    ".section\x7bmargin-bottom:40px\x7d",
    ".footer\x7bmargin-top:50px;padding-top:20px;border-top:2px solid #ecf0f1;color:#7f8c8d;font-size:.9em\x7d"]

/-- The script. -/
def script : String :=
  joinLines [
    "(function () \x7b",
    "  if (typeof Chart !== 'undefined') \x7b",
    "    document.querySelectorAll('script.chart-data').forEach(function (node) \x7b",
    "      var spec = JSON.parse(node.textContent);",
    "      var canvas = document.getElementById(spec.id);",
    "      if (!canvas) \x7b return; \x7d",
    "      new Chart(canvas.getContext('2d'), \x7b",
    "        type: 'bar',",
    "        data: \x7b labels: spec.labels, datasets: spec.datasets \x7d,",
    "        options: \x7b",
    "          responsive: true,",
    "          scales: \x7b y: \x7b beginAtZero: true, title: \x7b display: true, text: 'Time (ms)' \x7d \x7d \x7d",
    "        \x7d",
    "      \x7d);",
    "    \x7d);",
    "  \x7d",
    "  document.querySelectorAll('th').forEach(function (header) \x7b",
    "    header.addEventListener('click', function () \x7b",
    "      var table = header.closest('table');",
    "      var tbody = table.querySelector('tbody');",
    "      var rows = Array.from(tbody.querySelectorAll('tr'));",
    "      var index = Array.from(header.parentElement.children).indexOf(header);",
    "      var asc = header.classList.contains('asc');",
    "      rows.sort(function (a, b) \x7b",
    "        var av = a.children[index].textContent.trim();",
    "        var bv = b.children[index].textContent.trim();",
    "        var an = parseFloat(av), bn = parseFloat(bv);",
    "        if (!isNaN(an) && !isNaN(bn)) \x7b return asc ? bn - an : an - bn; \x7d",
    "        return asc ? bv.localeCompare(av) : av.localeCompare(bv);",
    "      \x7d);",
    "      rows.forEach(function (row) \x7b tbody.appendChild(row); \x7d);",
    "      header.classList.toggle('asc');",
    "    \x7d);",
    "  \x7d);",
    "\x7d)();"]

end Stopwatch.Page
