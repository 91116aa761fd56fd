import Scaffold.Stub.Name
import Scaffold.Stub.Template

/-!
# The packaged stubs

The templates that are used where the user gives none of their own.
-/
namespace Scaffold.Stub

/-- The model: a class with one property per column and relation. -/
def modelTemplate : Template :=
  [.lines ["<?php", "", "namespace "], .blank "namespace", .lines [";", "", ""],
   .blank "useStatements", .lines ["class "], .blank "modelName", .lines ["", "\x7b", ""],
   .blank "properties", .lines ["", "\x7d", ""]]

/-- The repository: queries and statements for one table. -/
def repositoryTemplate : Template :=
  [.lines ["<?php", "", "namespace "], .blank "namespace", .lines [";", "", ""],
   .blank "useStatements", .lines ["", "use PDO;", "", "class "], .blank "repositoryName",
   .lines ["", "\x7b", "    private PDO $db;", "", "    public function __construct(PDO $db)",
     "    \x7b", "        $this->db = $db;", "    \x7d", "", "    /**", "     * @return "],
   .blank "modelName",
   .lines ["[]", "     */", "    public function findAll(): array", "    \x7b",
     "        $sql = \"SELECT "], .blank "selectColumns", .lines ["", "        FROM `"],
   .blank "tableName", .lines ["`"], .blank "joinClause", .lines ["", "        "],
   .blank "softDeleteWhereClause",
   .lines ["\";", "", "        $stmt = $this->db->query($sql);", "        $results = [];",
     "        while ($row = $stmt->fetch(PDO::FETCH_ASSOC)) \x7b",
     "            $results[] = $this->hydrate($row);", "        \x7d", "        return $results;",
     "    \x7d", "", "    public function findById(int $id): ?"], .blank "modelName",
   .lines ["", "    \x7b", "        $sql = \"SELECT "], .blank "selectColumns",
   .lines ["", "        FROM `"], .blank "tableName", .lines ["`"], .blank "joinClause",
   .lines ["", "        WHERE `"], .blank "tableName", .lines ["`.`id` = ? "],
   .blank "softDeleteAndWhereClause",
   .lines ["\";", "", "        $stmt = $this->db->prepare($sql);",
     "        $stmt->execute([$id]);", "        $row = $stmt->fetch(PDO::FETCH_ASSOC);",
     "        return $row ? $this->hydrate($row) : null;", "    \x7d", "",
     "    public function create("], .blank "modelName",
   .lines [" $model): int", "    \x7b", "        $sql = \"INSERT INTO `"], .blank "tableName",
   .lines ["` ("], .blank "insertColumns", .lines [") VALUES ("], .blank "insertPlaceholders",
   .lines [")\";", "        $stmt = $this->db->prepare($sql);", "        $stmt->execute([", ""],
   .blank "executeArrayParamsCreate",
   .lines ["", "        ]);", "        return (int) $this->db->lastInsertId();", "    \x7d", "",
     "    public function update("], .blank "modelName",
   .lines [" $model): bool", "    \x7b", "        $sql = \"UPDATE `"], .blank "tableName",
   .lines ["` SET "], .blank "updateSetClause",
   .lines [" WHERE `id` = ?\";", "        $stmt = $this->db->prepare($sql);",
     "        return $stmt->execute([", ""], .blank "executeArrayParamsUpdate",
   .lines ["", "            $model->id,", "        ]);", "    \x7d", "",
     "    public function delete(int $id): bool", "    \x7b",
     "        $stmt = $this->db->prepare(\""], .blank "deleteStatement",
   .lines ["\");", "        return $stmt->execute([$id]);", "    \x7d", ""],
   .blank "restoreMethod", .lines ["", "    private function hydrate(array $row): "],
   .blank "modelName", .lines ["", "    \x7b", "        $model = new "], .blank "modelName",
   .lines ["();", ""], .blank "hydrationLogic",
   .lines ["", "        foreach ($row as $key => $value) \x7b",
     "            $property = lcfirst(str_replace(' ', '', ucwords(str_replace('_', ' ', $key))));",
     "            if (property_exists($model, $property)) \x7b",
     "                $model->$property = $value;", "            \x7d", "        \x7d",
     "        return $model;", "    \x7d", "\x7d", ""]]

/-- The method of a repository that takes the mark of deletion away. -/
def repositoryRestoreTemplate : Template :=
  [.lines ["", "    public function restore(int $id): bool", "    \x7b",
     "        $stmt = $this->db->prepare(\""], .blank "restoreStatement",
   .lines ["\");", "        return $stmt->execute([$id]);", "    \x7d", ""]]

/-- The controller: one action per kind of request. -/
def controllerTemplate : Template :=
  [.lines ["<?php", "", "namespace "], .blank "namespace", .lines [";", "", "use "],
   .blank "modelNamespace", .lines [";", "use "], .blank "repositoryNamespace",
   .lines [";", "", "class "], .blank "controllerName", .lines ["", "\x7b", "    private "],
   .blank "repositoryName", .lines [" $"], .blank "repositoryVariable",
   .lines [";", "", "    public function __construct("], .blank "repositoryName", .lines [" $"],
   .blank "repositoryVariable", .lines [")", "    \x7b", "        $this->"],
   .blank "repositoryVariable", .lines [" = $"], .blank "repositoryVariable",
   .lines [";", "    \x7d", "", "    public function index(): void", "    \x7b",
     "        $this->json($this->"], .blank "repositoryVariable",
   .lines ["->findAll());", "    \x7d", "", "    public function show(int $id): void", "    \x7b",
     "        $model = $this->"], .blank "repositoryVariable",
   .lines ["->findById($id);", "        if ($model === null) \x7b",
     "            $this->json(['error' => '"], .blank "modelName",
   .lines [" not found'], 404);", "            return;", "        \x7d",
     "        $this->json($model);", "    \x7d", "", "    public function store(): void",
     "    \x7b", "        $model = $this->fill(new "], .blank "modelName",
   .lines ["(), $this->input());", "        $id = $this->"], .blank "repositoryVariable",
   .lines ["->create($model);", "        $this->json($this->"], .blank "repositoryVariable",
   .lines ["->findById($id), 201);", "    \x7d", "", "    public function update(int $id): void",
     "    \x7b", "        $model = $this->"], .blank "repositoryVariable",
   .lines ["->findById($id);", "        if ($model === null) \x7b",
     "            $this->json(['error' => '"], .blank "modelName",
   .lines [" not found'], 404);", "            return;", "        \x7d", "        $this->"],
   .blank "repositoryVariable",
   .lines ["->update($this->fill($model, $this->input()));", "        $this->json($this->"],
   .blank "repositoryVariable",
   .lines ["->findById($id));", "    \x7d", "", "    public function destroy(int $id): void",
     "    \x7b", "        if (!$this->"], .blank "repositoryVariable",
   .lines ["->delete($id)) \x7b", "            $this->json(['error' => 'Delete failed'], 500);",
     "            return;", "        \x7d", "        http_response_code(204);", "    \x7d", ""],
   .blank "restoreMethod",
   .lines ["", "    private function input(): array", "    \x7b",
     "        $data = json_decode(file_get_contents('php://input'), true);",
     "        return is_array($data) ? $data : $_POST;", "    \x7d", "",
     "    private function fill("], .blank "modelName", .lines [" $model, array $data): "],
   .blank "modelName",
   .lines ["", "    \x7b", "        foreach ($data as $key => $value) \x7b",
     "            $property = lcfirst(str_replace(' ', '', ucwords(str_replace('_', ' ', $key))));",
     "            if (property_exists($model, $property) && $property !== 'id') \x7b",
     "                $model->$property = $value;", "            \x7d", "        \x7d",
     "        return $model;", "    \x7d", "",
     "    private function json($data, int $status = 200): void", "    \x7b",
     "        http_response_code($status);", "        header('Content-Type: application/json');",
     "        echo json_encode($data);", "    \x7d", "\x7d", ""]]

/-- The action of a controller that takes the mark of deletion away. -/
def controllerRestoreTemplate : Template :=
  [.lines ["", "    public function restore(int $id): void", "    \x7b", "        if (!$this->"],
   .blank "repositoryVariable",
   .lines ["->restore($id)) \x7b", "            $this->json(['error' => 'Restore failed'], 500);",
     "            return;", "        \x7d", "        $this->json($this->"],
   .blank "repositoryVariable", .lines ["->findById($id));", "    \x7d", ""]]

/-- The file that opens the database connection. -/
def databaseTemplate : Template :=
  [.lines ["<?php", "", "use Dotenv\\Dotenv;", "", "$root = dirname(__DIR__);",
     "if (file_exists($root . '/.env')) \x7b", "    Dotenv::createImmutable($root)->load();",
     "\x7d", "", "$dsn = sprintf(", "    'mysql:host=%s;port=%s;dbname=%s;charset=utf8mb4',",
     "    $_ENV['DB_HOST'] ?? '127.0.0.1',", "    $_ENV['DB_PORT'] ?? '3306',",
     "    $_ENV['DB_DATABASE'] ?? ''", ");", "",
     "return new PDO($dsn, $_ENV['DB_USERNAME'] ?? 'root', $_ENV['DB_PASSWORD'] ?? '', [",
     "    PDO::ATTR_ERRMODE => PDO::ERRMODE_EXCEPTION,",
     "    PDO::ATTR_DEFAULT_FETCH_MODE => PDO::FETCH_ASSOC,",
     "    PDO::ATTR_EMULATE_PREPARES => false,", "]);", ""]]

/-- The example of an environment file. -/
def environmentTemplate : Template :=
  [.lines ["DB_HOST=127.0.0.1", "DB_PORT=3306", "DB_DATABASE=", "DB_USERNAME=root",
     "DB_PASSWORD=", ""]]

/-- The entry point that hands requests to the controller. -/
def routerTemplate : Template :=
  [.lines ["<?php", "", "require_once __DIR__ . '/../vendor/autoload.php';", "", "use "],
   .blank "controllerClass", .lines [";", "use "], .blank "repositoryClass",
   .lines [";", "", "$db = require __DIR__ . '/../bootstrap/database.php';", "$controller = new "],
   .blank "controllerName", .lines ["(new "], .blank "repositoryName",
   .lines ["($db));", "", "$method = $_SERVER['REQUEST_METHOD'];",
     "$path = trim(parse_url($_SERVER['REQUEST_URI'], PHP_URL_PATH), '/');",
     "$segments = $path === '' ? [] : explode('/', $path);", "", "if (($segments[0] ?? '') !== '"],
   .blank "resourceName",
   .lines ["') \x7b", "    http_response_code(404);",
     "    header('Content-Type: application/json');",
     "    echo json_encode(['error' => 'Not found']);", "    return;", "\x7d", "",
     "$id = isset($segments[1]) ? (int) $segments[1] : null;", "$action = $segments[2] ?? null;",
     "", "switch (true) \x7b", "    case $method === 'GET' && $id === null:",
     "        $controller->index();", "        break;", "    case $method === 'GET':",
     "        $controller->show($id);", "        break;",
     "    case $method === 'POST' && $id === null:", "        $controller->store();",
     "        break;", ""], .blank "restoreRoute",
   .lines ["    case ($method === 'PUT' || $method === 'PATCH') && $id !== null:",
     "        $controller->update($id);", "        break;",
     "    case $method === 'DELETE' && $id !== null:", "        $controller->destroy($id);",
     "        break;", "    default:", "        http_response_code(405);",
     "        header('Content-Type: application/json');",
     "        echo json_encode(['error' => 'Method not allowed']);", "\x7d", ""]]

/-- The web server settings for Apache. -/
def apacheTemplate : Template :=
  [.lines ["RewriteEngine On", "", "RewriteCond %\x7bREQUEST_FILENAME\x7d !-f",
     "RewriteCond %\x7bREQUEST_FILENAME\x7d !-d", "RewriteRule ^ index.php [QSA,L]", ""]]

/-- The web server settings for nginx. -/
def nginxTemplate : Template :=
  [.lines ["server \x7b", "    listen 80;", "    server_name localhost;", "",
     "    root /var/www/html/public;", "    index index.php;", "", "    location / \x7b",
     "        try_files $uri $uri/ /index.php?$query_string;", "    \x7d", "",
     "    location ~ \\.php$ \x7b", "        include fastcgi_params;",
     "        fastcgi_pass 127.0.0.1:9000;",
     "        fastcgi_param SCRIPT_FILENAME $realpath_root$fastcgi_script_name;", "    \x7d", "",
     "    location ~ /\\.(?!well-known).* \x7b", "        deny all;", "    \x7d", "\x7d", ""]]

/-- The template of each packaged stub. -/
def Name.template : Name → Template
  | .model => modelTemplate
  | .repository => repositoryTemplate
  | .repositoryRestore => repositoryRestoreTemplate
  | .controller => controllerTemplate
  | .controllerRestore => controllerRestoreTemplate
  | .database => databaseTemplate
  | .environment => environmentTemplate
  | .router => routerTemplate
  | .apache => apacheTemplate
  | .nginx => nginxTemplate

/-- The text of each packaged stub. -/
def Name.packaged (name : Name) : String := name.template.text

end Scaffold.Stub
